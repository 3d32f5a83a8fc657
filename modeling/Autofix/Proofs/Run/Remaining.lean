import Autofix.Proofs.Config.Alike
import Autofix.Proofs.Run.Retained
import Autofix.Proofs.Run.Stages

/-!
# What a run leaves

A run of the rule engine records for each file what is found in the text that it leaves there: what
has been found in a text that was fixed afterwards does not stay, and linting one file takes nothing
away from what has been recorded for another one (`RuleEngine.run_leaves`). So the run fails because
of what was found exactly if something is found in the texts that it leaves.

Each file has to be linted once, and none is read as a configuration. `RuleEngine.LeftSince` is what
holds after each file.
-/

namespace Autofix

/-- A text that does not start with a byte-order mark stays as it is. -/
theorem SourceText.withoutMark_eq {s : String} (h : s.toList.head? ≠ some byteOrderMark) :
    withoutMark s = s := by
  unfold withoutMark
  cases hs : s.toList with
  | nil => rfl
  | cons c rest =>
    have hne : c ≠ byteOrderMark := fun heq => h (by rw [hs, heq]; rfl)
    simp only [if_neg hne]

/-- The text of a file is read again as long as it does not change. -/
theorem textToLint_congr {d d' : Disk} {project : Option Project} {file : Path}
    (hread : d'.readText file = d.readText file) :
    textToLint d' project file = textToLint d project file := by
  simp only [textToLint, SourceText.read, hread]

/-- Without a project, the text on the disk is linted unless it is empty. -/
theorem textToLint_none_eq_ok_iff {d : Disk} {file : Path} {text : Option String} :
    textToLint d none file = .ok text ↔
      ∃ s, SourceText.read d file = .ok s ∧ text = if s = "" then none else some s := by
  simp only [textToLint, bind_eq_ok_iff, mapError_eq_ok_iff]
  exact exists_congr fun s => and_congr_right fun _ =>
    ⟨fun h => (Except.ok.inj h).symm, fun h => congrArg Except.ok h.symm⟩

/-- What can be loaded after files have been written could be loaded before, if none of them is read
    for it. -/
theorem Ruleset.load_of_rewritten {registry : Registry} {places : Disk.Place → Prop} {d d' : Disk}
    {source : ConfigSource} {c : Ruleset} (hload : (load registry d' source).result = .ok c)
    (hapart : ∀ p, source.file? d = some p → LintConfig.Apart d places [] p)
    (h : d.Rewrites places d') : (load registry d source).result = .ok c := by
  rw [load, Traced.bind_result, bind_eq_ok_iff] at hload ⊢
  obtain ⟨config, hread, hactive⟩ := hload
  refine ⟨config, ?_, hactive⟩
  cases hfound : source.file? d with
  | none =>
    have hfound' : source.file? d' = none := (source.file?_eq h).trans hfound
    exact (read_eq_ok_iff_of_none hfound).2 ((read_eq_ok_iff_of_none hfound').1 hread)
  | some p =>
    have hfound' : source.file? d' = some p := (source.file?_eq h).trans hfound
    have hloads := LintConfig.ofFile_eq_ok_iff.1 ((read_eq_ok_iff hfound').1 hread)
    exact (read_eq_ok_iff hfound).2 <|
      LintConfig.ofFile_eq_ok_iff.2 (hloads.of_rewritten (hapart p hfound) h)

namespace RuleEngine

variable {start w w' : World RuleEngine} {c : Path → Ruleset} {done files : List Path}
  {file : Path} {options : TaskOptions} {root : Path} {project : Option Project}

/-- The text of a file on a disk. -/
def textOn (d : Disk) (file : Path) : String := (SourceText.read d file).toOption.getD ""

/-- What is left in a file between two disks: what the rules find in its text on the second one,
    unless the configuration leaves it out or there was nothing to lint on the first one. -/
def leftIn (registry : Registry) (before after : Disk) (c : Ruleset) (file : Path) :
    List Diagnostic :=
  if c.config.excludes file ∨ textOn before file = "" then []
  else c.check registry file (textOn after file)

/-- No text that has been written since a world starts with a byte-order mark. Texts are written to
    the files that fixes are recorded for. -/
def Unmarked (start w : World RuleEngine) : Prop :=
  ∀ x ∈ fixesSince start w, ∀ s, w.disk.readText x.path = .ok s →
    s.toList.head? ≠ some SourceText.byteOrderMark

/-- The files are there, each at a place of its own, their texts on the disk are those that are to be
    linted, and none of them is read for the configuration of a file. -/
structure LintsOnce (options : TaskOptions) (root : Path) (project : Option Project)
    (files : List Path) (d : Disk) : Prop where
  isFile : ∀ file ∈ files, d.isFile file
  apart : files.Pairwise fun p q => ∀ place, d.At p place → ¬d.At q place
  text_eq : ∀ file ∈ files, textToLint d project file = textToLint d none file
  configured : ∀ file ∈ files, ∀ p, (Engine.sourceFor options root file).file? d = some p →
    LintConfig.Apart d (fun place => ∃ other ∈ files, d.At other place) [] p

/-- Files are linted once if they are at places of their own and all of them have one configuration,
    which extends no other one and is none of them. -/
theorem LintsOnce.of_own {options : TaskOptions} {root p : Path} {files : List Path} {d : Disk}
    {own : LintConfig} (hisFile : ∀ file ∈ files, d.isFile file)
    (hapart : files.Pairwise fun p q => ∀ place, d.At p place → ¬d.At q place)
    (hfound : ∀ file ∈ files, (Engine.sourceFor options root file).file? d = some p)
    (hown : LintConfig.readOwn d p = .ok own) (hparents : own.parents p = [])
    (hother : ∀ file ∈ files, ∀ place, d.At p place → ¬d.At file place) :
    LintsOnce options root none files d where
  isFile := hisFile
  apart := hapart
  text_eq _ _ := rfl
  configured file hfile q hq := by
    obtain rfl := Option.some.inj ((hfound file hfile).symm.trans hq)
    refine .of_parents (fun own' hown' => ?_) fun place hat ⟨other, hmem, hat'⟩ =>
      hother other hmem place hat hat'
    rwa [Except.ok.inj (hown'.symm.trans hown)]

/-- Since a world these files have been linted, each under its rules. -/
structure LeftSince (start : World RuleEngine) (c : Path → Ruleset) (done : List Path)
    (w : World RuleEngine) : Prop where
  since : FixedSince start w.disk w.engine (fixesSince start w)
  path_mem : ∀ x ∈ fixesSince start w, x.path ∈ done
  read_eq : ∀ file ∈ done, SourceText.read start.disk file = .ok (textOn start.disk file) ∧
    SourceText.read w.disk file = .ok (textOn w.disk file)
  failures_eq : Unmarked start w → w.engine.failures = start.engine.failures ++
    done.flatMap fun file => leftIn start.engine.registry start.disk w.disk (c file) file

theorem textOn_eq {d : Disk} {text : String} (h : SourceText.read d file = .ok text) :
    textOn d file = text := by
  rw [textOn, h]
  rfl

theorem textOn_congr {d d' : Disk} (h : d'.readText file = d.readText file) :
    textOn d' file = textOn d file := by
  rw [textOn, textOn, SourceText.read, SourceText.read, h]

theorem LeftSince.refl (w : World RuleEngine) (c : Path → Ruleset) : LeftSince w c [] w where
  since := by
    rw [(FixedSince.refl w).fixesSince_eq]
    exact .refl w
  path_mem := by simp [(FixedSince.refl w).fixesSince_eq]
  read_eq := List.forall_mem_nil _
  failures_eq _ := by simp

/-- One file more has been linted, at a place of its own. -/
theorem LeftSince.append (h : LeftSince start c done w) (more : List Diagnostic)
    (hapart : ∀ other ∈ done, ∀ place, w.disk.At other place → ¬w.disk.At file place)
    (hrewrites : w.disk.Rewrites (w.disk.At file) w'.disk)
    (hsince : FixedSince start w'.disk w'.engine (fixesSince start w ++ more))
    (hpath : ∀ x ∈ more, x.path = file)
    (hstart : SourceText.read start.disk file = .ok (textOn start.disk file))
    (hread : ∃ text, SourceText.read w'.disk file = .ok text)
    (hfailures : Unmarked start w' → w'.engine.failures = w.engine.failures ++
      leftIn start.engine.registry start.disk w'.disk (c file) file) :
    LeftSince start c (done ++ [file]) w' := by
  have hfixes := hsince.fixesSince_eq
  have hkept : ∀ other ∈ done, w'.disk.readText other = w.disk.readText other := fun other hother =>
    hrewrites.readText_eq (hapart other hother)
  refine ⟨by rwa [hfixes], fun x hx => ?_, fun other hother => ?_, fun hunmarked => ?_⟩
  · rw [hfixes] at hx
    rcases List.mem_append.1 hx with hx | hx
    · exact List.mem_append_left _ (h.path_mem x hx)
    · exact List.mem_append_right _ (List.mem_singleton.2 (hpath x hx))
  · rcases List.mem_append.1 hother with hother | hother
    · obtain ⟨hstart, hread⟩ := h.read_eq other hother
      rw [SourceText.read, ← hkept other hother, ← SourceText.read,
        ← textOn_congr (hkept other hother)] at hread
      exact ⟨hstart, hread⟩
    · obtain rfl := List.mem_singleton.1 hother
      obtain ⟨text, hread⟩ := hread
      exact ⟨hstart, by rw [textOn_eq hread, hread]⟩
  · -- What was written before is still there, and has no mark either.
    have hbefore : Unmarked start w := fun x hx s hs =>
      hunmarked x (hfixes ▸ List.mem_append_left _ hx) s
        ((hkept x.path (h.path_mem x hx)).trans hs)
    have hleft : ∀ other ∈ done, leftIn start.engine.registry start.disk w.disk (c other) other =
        leftIn start.engine.registry start.disk w'.disk (c other) other := fun other hother => by
      rw [leftIn, leftIn, textOn_congr (hkept other hother)]
    rw [hfailures hunmarked, h.failures_eq hbefore, List.flatMap_append, List.flatMap_singleton,
      List.append_assoc, List.flatMap_congr hleft]

/-- Linting a file changes no other one. -/
theorem LintsTo.rewrites {path : Path} {content : String} {rules : Ruleset} {disk d : Disk}
    {engine after : RuleEngine} {outcome : Except LintError Unit}
    (h : LintsTo path content rules disk engine outcome d after) (hfile : disk.isFile path) :
    disk.Rewrites (disk.At path) d := by
  cases h with
  | leftOut | kept | failed => exact .refl _
  | fixed _ _ _ hwrite =>
    obtain ⟨place, hat, hrewrites⟩ := Disk.rewrites_of_writeText hfile hwrite
    exact hrewrites.mono fun _ heq => heq ▸ hat

/-- The next file is linted, at a place of its own, with the text that stood in it at the start. -/
theorem LeftSince.lintsTo {text : String} (h : LeftSince start c done w)
    (hlints : LintsTo file text (c file) w.disk w.engine (.ok ()) w'.disk w'.engine)
    (hfile : w.disk.isFile file)
    (hapart : ∀ other ∈ done, ∀ place, w.disk.At other place → ¬w.disk.At file place)
    (hread : SourceText.read w.disk file = .ok text)
    (hstart : SourceText.read start.disk file = .ok text) (hne : text ≠ "") :
    LeftSince start c (done ++ [file]) w' := by
  have hregistry := h.since.registry_eq
  have hstartFile : start.disk.isFile file := h.since.rewrites.isFile_eq file ▸ hfile
  obtain ⟨more, hsince, hpath⟩ := h.since.lint hstartFile hlints
  obtain ⟨d, after, trace, messages⟩ := w'
  have htext := textOn_eq hstart
  refine h.append more hapart (hlints.rewrites hfile) hsince hpath (htext.symm ▸ hstart) ?_
    fun hunmarked => ?_
  · cases hlints with
    | leftOut | kept => exact ⟨text, hread⟩
    | fixed _ _ _ hwrite =>
      rw [SourceText.read, Disk.readText_of_writeText hfile hwrite]
      exact ⟨_, rfl⟩
  · cases hlints with
    | leftOut hexcluded => rw [leftIn, if_pos (.inl hexcluded), List.append_nil]
    | kept hkeep =>
      rw [leftIn, if_neg (by simp [hkeep, htext, hne]), textOn_eq hread, ← hregistry]
    | @fixed fixed _ hkeep happly hmodified hwrite =>
      -- The fixes that are recorded here tell that the text that has been written has no mark.
      obtain ⟨x, hx⟩ : ∃ x, x ∈ fixed.applied :=
        List.exists_mem_of_ne_nil _ (by simpa [Fixed.modified] using hmodified)
      have hmore : more = fixed.applied := by
        have hfixes : w.engine.fixes ++ fixed.applied = _ := hsince.fixes_eq
        rw [h.since.fixes_eq, List.append_assoc] at hfixes
        exact (List.append_cancel_left (List.append_cancel_left hfixes)).symm
      have hfixed : d.readText file = .ok fixed.content := Disk.readText_of_writeText hfile hwrite
      have hmark := hunmarked x (hsince.fixesSince_eq ▸ List.mem_append_right _ (hmore ▸ hx))
        fixed.content ((hpath x (hmore ▸ hx)).symm ▸ hfixed)
      have hleft : SourceText.read d file = .ok fixed.content := by
        rw [SourceText.read, hfixed]
        exact congrArg Except.ok (SourceText.withoutMark_eq hmark)
      rw [leftIn, if_neg (by simp [hkeep, htext, hne]), textOn_eq hleft, ← hregistry]

/-- The next file is linted. -/
theorem LeftSince.lint {rest : List Path} (h : LeftSince start c done w)
    (honce : LintsOnce options root project files start.disk) (hfiles : files = done ++ file :: rest)
    (hok : (ruleEngine.fileTranscript project (c file) file w).outcome = .ok ()) :
    LeftSince start c (done ++ [file])
      (ruleEngine.fileTranscript project (c file) file w).world := by
  have hmem : file ∈ files := hfiles ▸ List.mem_append_right _ List.mem_cons_self
  have hrewrites := h.since.rewrites
  have hfile : w.disk.isFile file := hrewrites.isFile_eq file ▸ honce.isFile file hmem
  have hapart : ∀ other ∈ done, ∀ place, start.disk.At other place → ¬start.disk.At file place :=
    fun other hother =>
      (List.pairwise_append.1 (hfiles ▸ honce.apart)).2.2 other hother file List.mem_cons_self
  -- All that has been written is in other places, so the text is still that of the start.
  have hread : w.disk.readText file = start.disk.readText file :=
    hrewrites.readText_eq fun place hat ⟨x, hx, hat'⟩ =>
      hapart x.path (h.path_mem x hx) place hat' hat
  have hapart' : ∀ other ∈ done, ∀ place, w.disk.At other place → ¬w.disk.At file place := by
    simpa only [hrewrites.at_iff] using hapart
  have htext : textToLint w.disk project file = textToLint w.disk none file := by
    rw [textToLint_congr hread, honce.text_eq file hmem, textToLint_congr hread]
  rw [Engine.fileTranscript, htext] at hok ⊢
  cases hlint : textToLint w.disk none file with
  | error e => simp [hlint] at hok
  | ok text =>
    obtain ⟨s, hs, rfl⟩ := textToLint_none_eq_ok_iff.1 hlint
    have hstart : SourceText.read start.disk file = .ok s := by
      rwa [SourceText.read, hread, ← SourceText.read] at hs
    have htext := textOn_eq hstart
    rw [hlint] at hok
    split_ifs at hok ⊢ with hempty
    · refine h.append [] hapart' (.refl _) ?_ (List.forall_mem_nil _) (htext.symm ▸ hstart) ⟨s, hs⟩
        fun _ => ?_
      · rw [List.append_nil]
        exact h.since
      · rw [leftIn, if_pos (.inr (htext.trans hempty)), List.append_nil]
        rfl
    · have hlints := lint_lintsTo file s (c file) (w.noted (.debug s!"Linting {file.text}"))
      change (RuleEngine.lint file s (c file) _).1 = _ at hok
      change LeftSince start c _ (RuleEngine.lint file s (c file) _).2
      generalize RuleEngine.lint file s (c file) _ = linted at hok hlints ⊢
      obtain ⟨outcome, w'⟩ := linted
      obtain rfl : outcome = .ok () := hok
      exact h.lintsTo hlints hfile hapart' hs hstart hempty

/-! ### All files -/

/-- Files are linted one after the other under one configuration. -/
theorem LeftSince.inOrder {rules : Ruleset} {run rest : List Path} (h : LeftSince start c done w)
    (honce : LintsOnce options root project files start.disk)
    (hfiles : files = done ++ (run ++ rest)) (hrules : ∀ file ∈ run, c file = rules)
    (hok : (Transcript.inOrder (run.map (ruleEngine.fileTranscript project rules)) w).outcome =
      .ok ()) :
    LeftSince start c (done ++ run)
      (Transcript.inOrder (run.map (ruleEngine.fileTranscript project rules)) w).world := by
  induction run generalizing done w with
  | nil => rwa [List.append_nil]
  | cons file run ih =>
    rw [List.forall_mem_cons] at hrules
    obtain ⟨rfl, hrules⟩ := hrules
    rw [List.map_cons, Transcript.inOrder] at hok ⊢
    obtain ⟨hfirst, hrest⟩ := Transcript.of_outcome_andThen hok
    rw [Transcript.world_andThen hfirst, List.append_cons]
    refine ih (h.lint honce hfiles hfirst) ?_ hrules hrest
    rw [hfiles, List.cons_append, List.append_cons]

/-- The files of a folder are linted under a configuration that could be loaded at the start. -/
theorem LeftSince.folder {first : Path} {run rest : List Path} (h : LeftSince start c done w)
    (honce : LintsOnce options root project files start.disk)
    (hfiles : files = done ++ (first :: run ++ rest))
    (hrules : ∀ rules, (Ruleset.load start.engine.registry start.disk
      (Engine.sourceFor options root first)).result = .ok rules →
        ∀ file ∈ first :: run, c file = rules)
    (hok : (ruleEngine.folderTranscript options root project (first :: run) w).outcome = .ok ()) :
    LeftSince start c (done ++ first :: run)
        (ruleEngine.folderTranscript options root project (first :: run) w).world ∧
      (Ruleset.load start.engine.registry start.disk
        (Engine.sourceFor options root first)).result = .ok (c first) := by
  obtain ⟨rules, told, hload, hfolder⟩ := exists_load_of_folderTranscript hok
  have hmem : ∀ p ∈ done, p ∈ files := fun p hp => hfiles ▸ List.mem_append_left _ hp
  have hfirst : first ∈ files := hfiles ▸ List.mem_append_right _ List.mem_cons_self
  -- What has been written until then is not read for the configuration.
  have hstart : (Ruleset.load start.engine.registry start.disk
      (Engine.sourceFor options root first)).result = .ok rules := by
    rw [h.since.registry_eq] at hload
    refine Ruleset.load_of_rewritten hload (honce.configured first hfirst)
      (h.since.rewrites.mono ?_)
    rintro place ⟨x, hx, hat⟩
    exact ⟨x.path, hmem _ (h.path_mem x hx), hat⟩
  rw [hfolder] at hok ⊢
  have hkept := hrules rules hstart
  have htold : LeftSince start c done { w with trace := told } :=
    ⟨h.since, h.path_mem, h.read_eq, h.failures_eq⟩
  exact ⟨htold.inOrder honce hfiles hkept hok, hkept first List.mem_cons_self ▸ hstart⟩

/-- Folders are linted one after the other, each under the configuration of its first file. -/
theorem LeftSince.folders {runs : List (List Path)} (h : LeftSince start c done w)
    (honce : LintsOnce options root project files start.disk) (hne : [] ∉ runs)
    (hfiles : files = done ++ runs.flatten)
    (hrules : ∀ run ∈ runs, ∀ first ∈ run.head?, ∀ rules, (Ruleset.load start.engine.registry
      start.disk (Engine.sourceFor options root first)).result = .ok rules →
        ∀ file ∈ run, c file = rules)
    (hok : (Transcript.inOrder (runs.map (ruleEngine.folderTranscript options root project))
      w).outcome = .ok ()) :
    LeftSince start c files (Transcript.inOrder (runs.map
        (ruleEngine.folderTranscript options root project)) w).world ∧
      ∀ run ∈ runs, ∀ first ∈ run.head?, (Ruleset.load start.engine.registry
        start.disk (Engine.sourceFor options root first)).result = .ok (c first) := by
  induction runs generalizing done w with
  | nil =>
    rw [List.flatten_nil, List.append_nil] at hfiles
    exact ⟨hfiles ▸ h, List.forall_mem_nil _⟩
  | cons run runs ih =>
    rw [List.forall_mem_cons] at hrules
    obtain ⟨first, run, rfl⟩ := List.exists_cons_of_ne_nil fun hnil : run = [] =>
      hne (hnil ▸ List.mem_cons_self)
    rw [List.map_cons, Transcript.inOrder] at hok ⊢
    obtain ⟨hfirst, hrest⟩ := Transcript.of_outcome_andThen hok
    rw [Transcript.world_andThen hfirst, List.forall_mem_cons]
    obtain ⟨hrun, hload⟩ := h.folder honce hfiles (hrules.1 first rfl) hfirst
    obtain ⟨hleft, hloads⟩ := ih hrun (fun hnil => hne (List.mem_cons_of_mem _ hnil))
      (by rw [hfiles, List.flatten_cons, List.append_assoc]) hrules.2 hrest
    exact ⟨hleft, fun _ hsome => Option.some.inj hsome ▸ hload, hloads⟩

/-- Without repetitions, what goes with the parts of a list can be told from the elements. -/
theorem exists_forall_of_nodup_flatten {α β : Type} [DecidableEq α] [Inhabited β]
    {parts : List (List α)} (hnodup : parts.flatten.Nodup) (value : List α → β) :
    ∃ f : α → β, ∀ part ∈ parts, ∀ a ∈ part, f a = value part := by
  induction parts with
  | nil => exact ⟨fun _ => default, List.forall_mem_nil _⟩
  | cons part parts ih =>
    rw [List.flatten_cons, List.nodup_append] at hnodup
    obtain ⟨f, hf⟩ := ih hnodup.2.1
    refine ⟨fun a => if a ∈ part then value part else f a,
      List.forall_mem_cons.2 ⟨fun a ha => if_pos ha, fun other hother a ha => ?_⟩⟩
    have hnotin : a ∉ part := fun hmem =>
      hnodup.2.2 a hmem a (List.mem_flatten_of_mem hother ha) rfl
    exact (if_neg hnotin).trans (hf other hother a ha)

/-- Files at places of their own are not listed twice. -/
theorem nodup_of_apart {d : Disk} (hfiles : ∀ file ∈ files, d.isFile file)
    (hapart : files.Pairwise fun p q => ∀ place, d.At p place → ¬d.At q place) : files.Nodup := by
  refine hapart.imp_of_mem fun {p q} hp _ hpq heq => ?_
  obtain ⟨place, content, hstat⟩ := Disk.isFile_iff.1 (hfiles p hp)
  exact hpq place ⟨_, hstat⟩ (heq ▸ ⟨_, hstat⟩)

/-- Where no file is listed twice, the rules that are loaded at the start for the first file of a
    folder can be told from each of its files. -/
theorem exists_rules (options : TaskOptions) (root : Path) (w : World RuleEngine)
    (hnodup : files.Nodup) : ∃ c : Path → Ruleset, ∀ run ∈ folderRuns files, ∀ first ∈ run.head?,
      ∀ rules, (Ruleset.load w.engine.registry w.disk
        (Engine.sourceFor options root first)).result = .ok rules →
        ∀ file ∈ run, c file = rules := by
  obtain ⟨hflatten, -⟩ := folderRuns_eq_iff.1 (rfl : folderRuns files = _)
  obtain ⟨c, hc⟩ := exists_forall_of_nodup_flatten (hflatten ▸ hnodup) fun run =>
    run.head?.elim default fun first => (Ruleset.load w.engine.registry w.disk
      (Engine.sourceFor options root first)).result.toOption.getD default
  refine ⟨c, fun run hrun first hfirst rules hload file hfile => ?_⟩
  rw [hc run hrun file hfile]
  simp only [Option.mem_def.1 hfirst, Option.elim_some, hload]
  rfl

/-- A run that comes to its end has a transcript without an error. -/
theorem outcome_transcript {n : ℕ} (hok : (ruleEngine.lintAll options root project files w).1 =
    .ok n) : (ruleEngine.transcript options root project files w).outcome = .ok () := by
  have hall : ruleEngine.lintAll options root project files w = _ :=
    ruleEngine.lintAll_of_logs options root project ruleEngine.logs_self files w []
  rw [hall] at hok
  cases hout : (ruleEngine.transcript options root project files w).outcome with
  | error e => simp [hout, Except.map] at hok
  | ok => rfl

/-- All files are linted, each under the configuration of the first file of its folder. -/
theorem exists_leftSince_lintAll {n : ℕ} (honce : LintsOnce options root project files w.disk)
    (hok : (ruleEngine.lintAll options root project files w).1 = .ok n) :
    ∃ c, LeftSince w c files (ruleEngine.lintAll options root project files w).2 ∧
      ∀ run ∈ folderRuns files, ∀ first ∈ run.head?, ∀ file ∈ run, (Ruleset.load
        w.engine.registry w.disk (Engine.sourceFor options root first)).result = .ok (c file) := by
  obtain ⟨hflatten, hne, -, -⟩ := folderRuns_eq_iff.1 (rfl : folderRuns files = _)
  obtain ⟨c, hrules⟩ := exists_rules options root w (nodup_of_apart honce.isFile honce.apart)
  have hdone := outcome_transcript hok
  have hall : ruleEngine.lintAll options root project files w = _ :=
    ruleEngine.lintAll_of_logs options root project ruleEngine.logs_self files w []
  rw [hall]
  obtain ⟨hleft, hloads⟩ :=
    (LeftSince.refl w c).folders honce hne (by rw [List.nil_append]; exact hflatten) hrules hdone
  refine ⟨c, hleft, fun run hrun first hfirst file hfile => ?_⟩
  have hload := hloads run hrun first hfirst
  rw [hrules run hrun first hfirst _ hload file hfile]
  exact hload

/-! ### The whole run -/

/-- A run lints the files that it finds, and reports what came of it. -/
theorem run_eq_report {set : FileSet} {n : ℕ}
    (hset : (FileSet.resolve w.disk options root).result = .ok set)
    (hall : (ruleEngine.lintAll options root set.project set.files
      (ruleEngine.prepared options root w)).1 = .ok n) :
    ∃ told, ruleEngine.run options root w = ruleEngine.report options
      { (ruleEngine.lintAll options root set.project set.files
        (ruleEngine.prepared options root w)).2 with trace := told } := by
  rw [Engine.run_apply, Engine.reach_of_resolve hset]
  generalize ruleEngine.lintAll options root set.project set.files
    (ruleEngine.prepared options root w) = linted at hall ⊢
  obtain ⟨outcome, w'⟩ := linted
  obtain rfl : outcome = .ok n := hall
  exact ⟨_, rfl⟩

/-- Reporting changes nothing but the messages, and decides by what has been found. -/
theorem report_apply (options : TaskOptions) (w : World RuleEngine) :
    let reported := ruleEngine.report options w
    reported.2.disk = w.disk ∧ reported.2.engine = w.engine ∧
      (options.silent ∨ (Format.ofName? options.format).isSome →
        reported.1 = if !options.ignoreErrors && w.engine.result.hasErrors then
          .error .lintErrorsFound else .ok ()) := by
  dsimp only
  rw [report_eq]
  refine ⟨rfl, rfl, fun h => if_neg ?_⟩
  rcases h with h | h
  · simp [h]
  · simp [Option.isNone_iff_eq_none, Option.isSome_iff_ne_none.1 h]

theorem mem_leftIn_iff {registry : Registry} {before after : Disk} {rules : Ruleset}
    {x : Diagnostic} : x ∈ leftIn registry before after rules file ↔
      rules.config.excludes file = false ∧ textOn before file ≠ "" ∧
        x ∈ rules.check registry file (textOn after file) := by
  rw [leftIn]
  split_ifs with h
  · refine iff_of_false List.not_mem_nil fun ⟨hkeep, hne, _⟩ => ?_
    rcases h with h | h
    · rw [hkeep] at h
      cases h
    · exact hne h
  · rw [not_or, Bool.not_eq_true] at h
    exact ⟨fun hx => ⟨h.1, h.2, hx⟩, fun hx => hx.2.2⟩

/-- What has been recorded in a run of these files is what their rules find in the texts that are on
    the disk at its end, file after file, but for those that are left out and those that were empty
    at the start. The rules are those that can be loaded at the start for the first file of the
    folder. -/
structure Leaves (options : TaskOptions) (root : Path) (files : List Path)
    (start after : World RuleEngine) (c : Path → Ruleset) : Prop where
  load_eq : ∀ run ∈ folderRuns files, ∀ first ∈ run.head?, ∀ file ∈ run, (Ruleset.load
    start.engine.registry start.disk (Engine.sourceFor options root first)).result = .ok (c file)
  read_eq : ∀ file ∈ files, SourceText.read start.disk file = .ok (textOn start.disk file) ∧
    SourceText.read after.disk file = .ok (textOn after.disk file)
  failures_eq : after.engine.failures = start.engine.failures ++ (files.flatMap fun file =>
    leftIn start.engine.registry start.disk after.disk (c file) file)

/-- A run that comes to the end of its files leaves for each of them what its rules find in the text
    that is on the disk then, and nothing else. So, unless errors are ignored, it fails because of
    what was found exactly if something of error severity is found in these texts. -/
theorem run_leaves {set : FileSet} {n : ℕ}
    (hset : (FileSet.resolve w.disk options root).result = .ok set)
    (honce : LintsOnce options root set.project set.files w.disk)
    (hall : (ruleEngine.lintAll options root set.project set.files
      (ruleEngine.prepared options root w)).1 = .ok n)
    (hunmarked : Unmarked w (ruleEngine.run options root w).2) :
    let (outcome, after) := ruleEngine.run options root w
    ∃ c, Leaves options root set.files w after c ∧
      (options.ignoreErrors = false → options.silent ∨ (Format.ofName? options.format).isSome →
        (outcome = .error .lintErrorsFound ↔ (∃ x ∈ w.engine.failures, x.severity = .error) ∨
          ∃ file ∈ set.files, (c file).config.excludes file = false ∧ textOn w.disk file ≠ "" ∧
            ∃ x ∈ (c file).check w.engine.registry file (textOn after.disk file),
              x.severity = .error)) := by
  obtain ⟨told, hrun⟩ := run_eq_report hset hall
  obtain ⟨c, hleft, hloads⟩ := exists_leftSince_lintAll
    (w := ruleEngine.prepared options root w) honce hall
  generalize (ruleEngine.lintAll options root set.project set.files
    (ruleEngine.prepared options root w)).2 = w' at hrun hleft
  obtain ⟨hdisk, hengine, houtcome⟩ := report_apply options { w' with trace := told }
  rw [hrun] at hunmarked ⊢
  generalize ruleEngine.report options { w' with trace := told } = reported at *
  obtain ⟨outcome, ⟨disk, engine, trace, messages⟩⟩ := reported
  obtain rfl : disk = w'.disk := hdisk
  obtain rfl : engine = w'.engine := hengine
  have hfailures := hleft.failures_eq hunmarked
  refine ⟨c, ⟨hloads, hleft.read_eq, hfailures⟩, fun hstrict hformat => ?_⟩
  -- An error has been there before, or is found in one of the texts that are left.
  have herrors : w'.engine.result.hasErrors ↔ (∃ x ∈ w.engine.failures, x.severity = .error) ∨
      ∃ file ∈ set.files, (c file).config.excludes file = false ∧ textOn w.disk file ≠ "" ∧
        ∃ x ∈ (c file).check w.engine.registry file (textOn w'.disk file),
          x.severity = .error := by
    rw [hasErrors_iff, result, hfailures]
    simp only [List.mem_append, List.mem_flatMap, mem_leftIn_iff, or_and_right, exists_or]
    refine or_congr Iff.rfl ?_
    constructor
    · rintro ⟨x, ⟨file, hfile, hkeep, hne, hx⟩, herror⟩
      exact ⟨file, hfile, hkeep, hne, x, hx, herror⟩
    · rintro ⟨file, hfile, hkeep, hne, x, hx, herror⟩
      exact ⟨x, ⟨file, hfile, hkeep, hne, hx⟩, herror⟩
  obtain rfl : outcome = _ := houtcome hformat
  rw [← herrors, hstrict]
  cases w'.engine.result.hasErrors <;> simp

/-- The task to lint both files of `letters`. -/
def lettersTask : TaskOptions := { explicitFiles := some (.many ["a.ts", "c.ts"]) }

theorem resolve_letters : (FileSet.resolve letters.disk lettersTask ⟨"/"⟩).result =
    .ok ⟨[⟨"/a.ts"⟩, ⟨"/c.ts"⟩], none⟩ := rfl

theorem lintsOnce_letters :
    LintsOnce lettersTask ⟨"/"⟩ none [⟨"/a.ts"⟩, ⟨"/c.ts"⟩] letters.disk := by
  have hplaces : ∀ file ∈ [⟨"/a.ts"⟩, ⟨"/c.ts"⟩], ∃ name t,
      letters.disk.stat file = .ok ([name], t) ∧ name ≠ "lintfix.json" := by
    simp only [List.forall_mem_cons]
    exact ⟨⟨"a.ts", _, rfl, by decide⟩, ⟨"c.ts", _, rfl, by decide⟩, List.forall_mem_nil _⟩
  have hconfig : letters.disk.stat ⟨"/lintfix.json"⟩ = .ok (["lintfix.json"], _) := rfl
  refine .of_own (by decide) pairwise_letters (by decide) readOwn_letters rfl
    fun file hfile place => ?_
  obtain ⟨name, u, hstat, hname⟩ := hplaces file hfile
  exact Disk.not_at_of_stat hconfig hstat fun h => hname (List.cons.inj h).1.symm

/-- Both files of `letters` are linted. -/
theorem lintAll_letters_both (options : TaskOptions) (project : Option Project)
    (hdisk : w.disk = lettersDisk "a") (hregistry : w.engine.registry = [])
    (hfix : w.engine.options.fix)
    (hsource : Engine.sourceFor options ⟨"/"⟩ ⟨"/a.ts"⟩ = .nearest ⟨"/a.ts"⟩)
    (htext : textToLint (lettersDisk "a") project ⟨"/a.ts"⟩ = .ok (some "a"))
    (htext' : textToLint (lettersDisk "b") project ⟨"/c.ts"⟩ = .ok (some "c")) :
    ∃ w', ruleEngine.lintAll options ⟨"/"⟩ project [⟨"/a.ts"⟩, ⟨"/c.ts"⟩] w = (.ok 1, w') ∧
      w'.disk = lettersDisk "b" ∧ w'.engine = w.engine.recorded [] [letterFound ⟨"/a.ts"⟩] := by
  have hruns : folderRuns [⟨"/a.ts"⟩, ⟨"/c.ts"⟩] = [[⟨"/a.ts"⟩, ⟨"/c.ts"⟩]] := by decide
  have hnil : lettersRules.check [] ⟨"/c.ts"⟩ "c" = [] := by cbv
  obtain ⟨w', hdisk', hengine, hall⟩ :=
    lintAll_letters options project hdisk hregistry hfix hruns hsource htext
  rw [← hdisk'] at htext'
  obtain ⟨houtcome, hdisk'', hengine'⟩ :=
    fileTranscript_letters_of_nil project (by rw [hengine]; exact hregistry) htext' hnil
  refine ⟨_, ?_, hdisk''.trans hdisk', hengine'.trans hengine⟩
  rw [hall, List.map_singleton, Transcript.inOrder, Transcript.andThen_inOrder_nil, houtcome]
  rfl

theorem unmarked_letters {after : World RuleEngine} (hdisk : after.disk = lettersDisk "b")
    (hfixes : after.engine.fixes = [letterFound ⟨"/a.ts"⟩]) : Unmarked letters after := by
  intro x hx s hs
  rw [fixesSince, hfixes] at hx
  obtain rfl := List.mem_singleton.1 hx
  rw [hdisk] at hs
  have hwritten : (lettersDisk "b").readText ⟨"/a.ts"⟩ = .ok "b" := rfl
  obtain rfl := Except.ok.inj (hs.symm.trans hwritten)
  decide

theorem run_leaves_letters :
    (∃ n, (FileSet.resolve letters.disk lettersTask ⟨"/"⟩).result =
        .ok ⟨[⟨"/a.ts"⟩, ⟨"/c.ts"⟩], none⟩ ∧
      LintsOnce lettersTask ⟨"/"⟩ none [⟨"/a.ts"⟩, ⟨"/c.ts"⟩] letters.disk ∧
      (ruleEngine.lintAll lettersTask ⟨"/"⟩ none [⟨"/a.ts"⟩, ⟨"/c.ts"⟩]
        (ruleEngine.prepared lettersTask ⟨"/"⟩ letters)).1 = .ok n ∧
      Unmarked letters (ruleEngine.run lettersTask ⟨"/"⟩ letters).2) ∧
    let (outcome, after) := ruleEngine.run lettersTask ⟨"/"⟩ letters
    ∃ c, Leaves lettersTask ⟨"/"⟩ [⟨"/a.ts"⟩, ⟨"/c.ts"⟩] letters after c ∧
      (lettersTask.ignoreErrors = false →
        lettersTask.silent ∨ (Format.ofName? lettersTask.format).isSome →
        (outcome = .error .lintErrorsFound ↔
          (∃ x ∈ letters.engine.failures, x.severity = .error) ∨
          ∃ file ∈ [⟨"/a.ts"⟩, ⟨"/c.ts"⟩], (c file).config.excludes file = false ∧
            textOn letters.disk file ≠ "" ∧
            ∃ x ∈ (c file).check letters.engine.registry file (textOn after.disk file),
              x.severity = .error)) := by
  obtain ⟨w', hall, hdisk, hengine⟩ := lintAll_letters_both lettersTask none
    (w := ruleEngine.prepared lettersTask ⟨"/"⟩ letters) rfl rfl rfl rfl rfl rfl
  obtain ⟨hdisk', hengine', -⟩ := run_of_lintAll resolve_letters hall
  have hunmarked := unmarked_letters (hdisk'.trans hdisk) (by rw [hengine', hengine]; rfl)
  have hdone := congrArg Prod.fst hall
  exact ⟨⟨1, resolve_letters, lintsOnce_letters, hdone, hunmarked⟩,
    run_leaves resolve_letters lintsOnce_letters hdone hunmarked⟩

end RuleEngine

end Autofix
