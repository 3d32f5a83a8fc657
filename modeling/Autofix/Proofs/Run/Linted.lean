import Autofix.Proofs.Run.Fresh

/-!
# What becomes of each file

What linting a file comes to is settled by its text and its rules (`Ruleset.linted?`): the text that
is written, if one is, and what is recorded. Where each file is at a place of its own and none is
read as a configuration, texts and rules are those of the start, whatever has been linted before
(`RuleEngine.Settled`). A run of such files comes to its end and leaves exactly the sum of what
becomes of each (`RuleEngine.lintAll_of_settled`), and whenever it comes to its end, all of it has
been settled at the start (`RuleEngine.exists_settled`).
-/

namespace Autofix

/-! ### One file -/

/-- What linting a file comes to: the text that is written, if one is, and what is recorded. -/
structure Linted where
  written : Option String := none
  failures : List Diagnostic := []
  fixes : List Diagnostic := []
  deriving Inhabited

namespace Ruleset

variable {registry : Registry} {c c' : Ruleset} {path : Path}

/-- What linting a text comes to, unless a replacement cannot be made. -/
def lintedText? (registry : Registry) (fix : Bool) (c : Ruleset) (path : Path) (content : String) :
    Option Linted :=
  let found := c.check registry path content
  if fix && found.any (·.fix.isSome) then
    (Fixing.apply content found).map fun fixed =>
      if fixed.modified then
        ⟨some fixed.content, c.check registry path fixed.content, fixed.applied⟩
      else ⟨none, found, []⟩
  else some ⟨none, found, []⟩

/-- What linting a file comes to, given its text, if there is something to lint in it. -/
def linted? (registry : Registry) (fix : Bool) (c : Ruleset) (path : Path) :
    Option String → Option Linted
  | none => some {}
  | some content =>
    if c.config.excludes path then some {} else lintedText? registry fix c path content

theorem Alike.linted?_eq (h : c.Alike c') (registry : Registry) (fix : Bool) (path : Path)
    (text : Option String) :
    c.linted? registry fix path text = c'.linted? registry fix path text := by
  cases text with
  | none => rfl
  | some content => simp only [linted?, lintedText?, h.config.excludes_eq, h.check_eq]

/-- What linting a file comes to is nothing, or what is found in its text, or the text with fixes and
    what is found then. -/
theorem linted?_cases {fix : Bool} {text : Option String} {l : Linted}
    (h : c.linted? registry fix path text = some l) :
    l = {} ∨ ∃ content, text = some content ∧ c.config.excludes path = false ∧
      (l = ⟨none, c.check registry path content, []⟩ ∨
        ∃ fixed, Fixing.apply content (c.check registry path content) = some fixed ∧
          fixed.applied ≠ [] ∧
          l = ⟨some fixed.content, c.check registry path fixed.content, fixed.applied⟩) := by
  cases text with
  | none => exact .inl (Option.some.inj h).symm
  | some content =>
    rw [linted?] at h
    split_ifs at h with hexcluded
    · exact .inl (Option.some.inj h).symm
    · refine .inr ⟨content, rfl, Bool.not_eq_true _ ▸ hexcluded, ?_⟩
      rw [lintedText?] at h
      split_ifs at h
      · obtain ⟨fixed, happly, rfl⟩ := Option.map_eq_some_iff.1 h
        split_ifs with hmodified
        · exact .inr ⟨fixed, happly, by simpa [Fixed.modified] using hmodified, rfl⟩
        · exact .inl rfl
      · exact .inl (Option.some.inj h).symm

/-- What linting a text comes to if it is changed. -/
theorem linted?_of_apply {content : String} {fixed : Fixed} (hkeep : c.config.excludes path = false)
    (happly : Fixing.apply content (c.check registry path content) = some fixed)
    (hmodified : fixed.modified) : c.linted? registry true path (some content) =
      some ⟨some fixed.content, c.check registry path fixed.content, fixed.applied⟩ := by
  have hany := Fixing.any_of_modified happly hmodified
  simp only [linted?, hkeep, lintedText?, hany, happly, hmodified, Bool.and_self, if_true,
    Option.map_some, Bool.false_eq_true, if_false]

/-- All that is recorded for a file is recorded under its path. -/
theorem path_of_linted? {fix : Bool} {text : Option String} {l : Linted}
    (h : c.linted? registry fix path text = some l) :
    (∀ x ∈ l.failures, x.path = path) ∧ ∀ x ∈ l.fixes, x.path = path := by
  have hnil : ∀ x ∈ ([] : List Diagnostic), x.path = path := List.forall_mem_nil _
  have hcheck : ∀ content, ∀ x ∈ c.check registry path content, x.path = path :=
    fun content x hx => path_of_mem_check hx
  obtain rfl | ⟨content, -, -, rfl | ⟨fixed, happly, -, rfl⟩⟩ := linted?_cases h
  · exact ⟨hnil, hnil⟩
  · exact ⟨hcheck _, hnil⟩
  · exact ⟨hcheck _, fun x hx => hcheck _ x (Fixing.mem_of_mem_applied happly hx).1⟩

end Ruleset

namespace RuleEngine

variable {start w w' : World RuleEngine} {c : Ruleset} {rules : Path → Ruleset}
  {result : Path → Linted} {done files : List Path} {file : Path} {options : TaskOptions}
  {root : Path} {project : Option Project} {l : Linted} {text : Option String}

theorem recorded_nil (e : RuleEngine) : e.recorded [] [] = e := by
  rw [recorded, List.append_nil, List.append_nil]

/-- Where all replacements can be made, nothing else comes of linting a text than is settled, unless
    the text that is settled cannot be written: then the run ends and nothing is recorded. -/
theorem lint_cases_of_linted {content : String}
    (h : c.linted? w.engine.registry w.engine.options.fix file (some content) = some l) :
    let linted := lint file content c w
    (linted.1 = .ok () ∧ linted.2.engine = w.engine.recorded l.failures l.fixes ∧
        w.disk.Stores file l.written linted.2.disk) ∨
      ∃ s e, l.written = some s ∧ w.disk.writeText file s = .error e ∧
        linted.1 = .error (.io e) ∧ linted.2.engine = w.engine := by
  rw [Ruleset.linted?] at h
  split_ifs at h with hexcluded
  · obtain rfl := Option.some.inj h
    rw [lint, if_pos hexcluded]
    exact .inl ⟨rfl, (recorded_nil _).symm, rfl⟩
  · rw [lint_apply (Bool.not_eq_true _ ▸ hexcluded), lintText_apply]
    rw [Ruleset.lintedText?] at h
    dsimp only at h ⊢
    split_ifs at h ⊢
    · obtain ⟨fixed, happly, rfl⟩ := Option.map_eq_some_iff.1 h
      rw [happly]
      dsimp only
      split_ifs
      · cases hwrite : w.disk.writeText file fixed.content with
        | error e => exact .inr ⟨_, e, rfl, hwrite, rfl, rfl⟩
        | ok d => exact .inl ⟨rfl, rfl, hwrite⟩
      · exact .inl ⟨rfl, rfl, rfl⟩
    · obtain rfl := Option.some.inj h
      exact .inl ⟨rfl, rfl, rfl⟩

theorem exists_linted_of_lint {content : String} (hok : (lint file content c w).1 = .ok ()) :
    ∃ l, c.linted? w.engine.registry w.engine.options.fix file (some content) = some l := by
  rw [Ruleset.linted?]
  split_ifs with hexcluded
  · exact ⟨_, rfl⟩
  · rw [lint_apply (Bool.not_eq_true _ ▸ hexcluded), lintText_apply] at hok
    rw [Ruleset.lintedText?]
    dsimp only at hok ⊢
    split_ifs at hok ⊢
    · cases happly : Fixing.apply content (c.check w.engine.registry file content) with
      | none => simp [happly] at hok
      | some fixed => exact ⟨_, rfl⟩
    · exact ⟨_, rfl⟩

/-- A file is linted as settled by its text, unless the text that is settled cannot be written. -/
theorem fileTranscript_cases_of_linted (htext : textToLint w.disk project file = .ok text)
    (h : c.linted? w.engine.registry w.engine.options.fix file text = some l) :
    let t := ruleEngine.fileTranscript project c file w
    (t.outcome = .ok () ∧ t.world.engine = w.engine.recorded l.failures l.fixes ∧
        w.disk.Stores file l.written t.world.disk) ∨
      ∃ s e, l.written = some s ∧ w.disk.writeText file s = .error e ∧
        t.outcome = .error (.io e) ∧ t.world.engine = w.engine := by
  rw [Engine.fileTranscript, htext]
  cases text with
  | none =>
    obtain rfl := Option.some.inj h
    exact .inl ⟨rfl, (recorded_nil _).symm, rfl⟩
  | some content => exact lint_cases_of_linted (w := w.noted (.debug s!"Linting {file.text}")) h

theorem fileTranscript_of_linted (hfile : w.disk.isFile file)
    (htext : textToLint w.disk project file = .ok text)
    (h : c.linted? w.engine.registry w.engine.options.fix file text = some l) :
    let t := ruleEngine.fileTranscript project c file w
    t.outcome = .ok () ∧ t.world.engine = w.engine.recorded l.failures l.fixes ∧
      w.disk.Stores file l.written t.world.disk := by
  rcases fileTranscript_cases_of_linted htext h with hlinted | ⟨s, e, -, hwrite, -⟩
  · exact hlinted
  · obtain ⟨d, hd⟩ := Disk.exists_writeText hfile s
    cases hwrite.symm.trans hd

theorem exists_linted_of_fileTranscript
    (hok : (ruleEngine.fileTranscript project c file w).outcome = .ok ()) :
    ∃ text l, textToLint w.disk project file = .ok text ∧
      c.linted? w.engine.registry w.engine.options.fix file text = some l := by
  rw [Engine.fileTranscript] at hok
  cases htext : textToLint w.disk project file with
  | error e => simp [htext] at hok
  | ok text =>
    rw [htext] at hok
    cases text with
    | none => exact ⟨none, {}, rfl, rfl⟩
    | some content =>
      obtain ⟨l, hl⟩ := exists_linted_of_lint hok
      exact ⟨some content, l, rfl, hl⟩

/-- A file that is linted alone in its folder. -/
theorem folderTranscript_of_linted
    (hload : (Ruleset.load w.engine.registry w.disk
      (Engine.sourceFor options root file)).result = .ok c) (hfile : w.disk.isFile file)
    (htext : textToLint w.disk project file = .ok text)
    (h : c.linted? w.engine.registry w.engine.options.fix file text = some l) :
    let t := ruleEngine.folderTranscript options root project [file] w
    t.outcome = .ok () ∧ t.world.engine = w.engine.recorded l.failures l.fixes ∧
      w.disk.Stores file l.written t.world.disk := by
  obtain ⟨told, hfolder⟩ := folderTranscript_of_load project [] hload
  have hlinted := fileTranscript_of_linted (w := { w with trace := told }) hfile htext h
  have hsingle : Transcript.inOrder [ruleEngine.fileTranscript project c file]
      { w with trace := told } = ruleEngine.fileTranscript project c file
        { w with trace := told } := by
    rw [Transcript.inOrder, Transcript.andThen_inOrder_nil]
  rw [hfolder, List.map_singleton]
  dsimp only
  rw [Transcript.outcome_andThen rfl, Transcript.world_andThen rfl, hsingle]
  exact hlinted

/-! ### Files that have been linted -/

/-- Since a world these files have been linted with these results, and nothing else has happened. -/
structure LintedSince (start : World RuleEngine) (result : Path → Linted) (done : List Path)
    (w : World RuleEngine) : Prop where
  engine_eq : w.engine = start.engine.recorded (done.flatMap fun file => (result file).failures)
    (done.flatMap fun file => (result file).fixes)
  rewrites : start.disk.Rewrites (fun place => ∃ file ∈ done, (result file).written.isSome ∧
    start.disk.At file place) w.disk
  overwrites : start.disk.Overwrites w.disk
  read_eq : ∀ file ∈ done, ∀ s, (result file).written = some s → w.disk.readText file = .ok s
  disk_eq : (∀ file ∈ done, (result file).written = none) → w.disk = start.disk

theorem LintedSince.refl (w : World RuleEngine) (result : Path → Linted) :
    LintedSince w result [] w where
  engine_eq := (recorded_nil _).symm
  rewrites := .refl _
  overwrites := .refl
  read_eq := List.forall_mem_nil _
  disk_eq _ := rfl

theorem LintedSince.congr {start' : World RuleEngine} (h : LintedSince start result done w)
    (hdisk : start'.disk = start.disk) (hengine : start'.engine = start.engine) :
    LintedSince start' result done w := by
  obtain ⟨hrecorded, hrewrites, hoverwrites, hread, hsame⟩ := h
  rw [← hengine] at hrecorded
  rw [← hdisk] at hrewrites hoverwrites hsame
  exact ⟨hrecorded, hrewrites, hoverwrites, hread, hsame⟩

theorem LintedSince.told (h : LintedSince start result done w) (told : Trace) :
    LintedSince start result done { w with trace := told } :=
  ⟨h.engine_eq, h.rewrites, h.overwrites, h.read_eq, h.disk_eq⟩

theorem LintedSince.registry_eq (h : LintedSince start result done w) :
    w.engine.registry = start.engine.registry := by
  rw [h.engine_eq]
  rfl

theorem LintedSince.options_eq (h : LintedSince start result done w) :
    w.engine.options = start.engine.options := by
  rw [h.engine_eq]
  rfl

/-- One file more has been linted, at a place of its own. -/
theorem LintedSince.append (h : LintedSince start result done w) (hfile : start.disk.isFile file)
    (hapart : ∀ other ∈ done, ∀ place, start.disk.At other place → ¬start.disk.At file place)
    (hengine : w'.engine = w.engine.recorded (result file).failures (result file).fixes)
    (hdisk : w.disk.Stores file (result file).written w'.disk) :
    LintedSince start result (done ++ [file]) w' := by
  have hrewrites : start.disk.Rewrites (fun place => ∃ other ∈ done ++ [file],
      (result other).written.isSome ∧ start.disk.At other place) w.disk :=
    h.rewrites.mono fun place ⟨other, hother, hat⟩ => ⟨other, List.mem_append_left _ hother, hat⟩
  have hengine' : w'.engine = start.engine.recorded
      ((done ++ [file]).flatMap fun file => (result file).failures)
      ((done ++ [file]).flatMap fun file => (result file).fixes) := by
    rw [hengine, h.engine_eq]
    simp only [recorded, List.flatMap_append, List.flatMap_singleton, List.append_assoc]
  cases hwritten : (result file).written with
  | none =>
    rw [hwritten] at hdisk
    obtain ⟨d, after, trace, messages⟩ := w'
    obtain rfl : d = w.disk := hdisk
    refine ⟨hengine', hrewrites, h.overwrites, fun other hother s hs => ?_, fun hnone => ?_⟩
    · rcases List.mem_append.1 hother with hother | hother
      · exact h.read_eq other hother s hs
      · rw [List.mem_singleton.1 hother, hwritten] at hs
        cases hs
    · exact h.disk_eq fun other hother => hnone other (List.mem_append_left _ hother)
  | some content =>
    rw [hwritten] at hdisk
    have hfile' : w.disk.isFile file := h.rewrites.isFile_eq file ▸ hfile
    obtain ⟨place, hat, hput⟩ := Disk.rewrites_of_writeText hfile' hdisk
    have hat' := h.rewrites.at_iff.1 hat
    refine ⟨hengine', hrewrites.trans (hput.mono ?_), h.overwrites.write hfile' hdisk,
      fun other hother s hs => ?_, fun hnone => ?_⟩
    · rintro _ rfl
      exact ⟨file, List.mem_append_right _ (List.mem_singleton_self _), by rw [hwritten]; rfl, hat'⟩
    · rcases List.mem_append.1 hother with hother | hother
      · -- What has been written before is at another place.
        rw [hput.readText_eq, h.read_eq other hother s hs]
        rintro _ hother' rfl
        exact hapart other hother _ (h.rewrites.at_iff.1 hother') hat'
      · obtain rfl := List.mem_singleton.1 hother
        obtain rfl := Option.some.inj (hwritten.symm.trans hs)
        exact Disk.readText_of_writeText hfile' hdisk
    · have hwritten' := hnone file (List.mem_append_right _ (List.mem_singleton_self _))
      rw [hwritten] at hwritten'
      cases hwritten'

/-- What is left in a file is what has been written to its place, or what was there at the start. -/
theorem LintedSince.readText_eq (h : LintedSince start result done w) (p : Path) :
    (∃ file ∈ done, ∃ s, (result file).written = some s ∧
      (∃ place, start.disk.At file place ∧ start.disk.At p place) ∧
        w.disk.readText p = .ok s) ∨
      (∀ file ∈ done, (result file).written.isSome → ∀ place, start.disk.At p place →
        ¬start.disk.At file place) ∧ w.disk.readText p = start.disk.readText p := by
  by_cases hwritten : ∃ place, start.disk.At p place ∧
      ∃ file ∈ done, (result file).written.isSome ∧ start.disk.At file place
  · obtain ⟨place, hp, file, hfile, hsome, hat⟩ := hwritten
    obtain ⟨s, hs⟩ := Option.isSome_iff_exists.1 hsome
    refine .inl ⟨file, hfile, s, hs, ⟨place, hat, hp⟩, ?_⟩
    rw [Disk.readText_eq_of_at (h.rewrites.at_iff.2 hp) (h.rewrites.at_iff.2 hat),
      h.read_eq file hfile s hs]
  · refine .inr ⟨fun file hfile hsome place hp hat => hwritten ⟨place, hp, file, hfile, hsome, hat⟩,
      h.rewrites.readText_eq fun place hp hplace => hwritten ⟨place, hp, hplace⟩⟩

/-- What becomes of a file that is linted with the text that it has in a world, unless it has none
    or a replacement cannot be made. -/
def becomes? (project : Option Project) (start : World RuleEngine) (c : Ruleset) (file : Path) :
    Option Linted :=
  (textToLint start.disk project file).toOption.bind
    (c.linted? start.engine.registry start.engine.options.fix file)

theorem becomes?_eq_some_iff : becomes? project start c file = some l ↔
    ∃ text, textToLint start.disk project file = .ok text ∧
      c.linted? start.engine.registry start.engine.options.fix file text = some l := by
  rw [becomes?, Option.bind_eq_some_iff]
  refine exists_congr fun text => and_congr_left fun _ => ?_
  cases textToLint start.disk project file <;> simp [Except.toOption]

/-- Files at places of their own that are there at the start. -/
structure AtPlaces (files : List Path) (d : Disk) : Prop where
  isFile : ∀ file ∈ files, d.isFile file
  apart : files.Pairwise fun p q => ∀ place, d.At p place → ¬d.At q place

theorem AtPlaces.rewritten {d d' : Disk} {places : Disk.Place → Prop} (h : AtPlaces files d)
    (hd : d.Rewrites places d') : AtPlaces files d' where
  isFile file hfile := hd.isFile_eq file ▸ h.isFile file hfile
  apart := h.apart.imp fun hpq place hp hq => hpq place (hd.at_iff.1 hp) (hd.at_iff.1 hq)

theorem AtPlaces.apart_of_append {done rest : List Path} {d : Disk}
    (h : AtPlaces (done ++ file :: rest) d) :
    ∀ other ∈ done, ∀ place, d.At other place → ¬d.At file place :=
  fun other hother => (List.pairwise_append.1 h.apart).2.2 other hother file List.mem_cons_self

/-- The text of a file at a place of its own is what it was at the start. -/
theorem LintedSince.textToLint_eq (h : LintedSince start result done w)
    (hapart : ∀ other ∈ done, ∀ place, start.disk.At other place → ¬start.disk.At file place) :
    textToLint w.disk project file = textToLint start.disk project file :=
  textToLint_congr <| h.rewrites.readText_eq fun place hat ⟨other, hother, _, hat'⟩ =>
    hapart other hother place hat' hat

/-- The next file is linted, if what becomes of it is settled by the start. -/
theorem LintedSince.lint {rest : List Path} (h : LintedSince start result done w)
    (hplaces : AtPlaces (done ++ file :: rest) start.disk) (halike : c.Alike (rules file))
    (hbecomes : becomes? project start (rules file) file = some (result file)) :
    let t := ruleEngine.fileTranscript project c file w
    t.outcome = .ok () ∧ LintedSince start result (done ++ [file]) t.world := by
  obtain ⟨text, htext, hlinted⟩ := becomes?_eq_some_iff.1 hbecomes
  have hfile : start.disk.isFile file :=
    hplaces.isFile file (List.mem_append_right _ List.mem_cons_self)
  have hapart := hplaces.apart_of_append
  rw [← h.textToLint_eq hapart] at htext
  rw [← halike.linted?_eq, ← h.registry_eq, ← h.options_eq] at hlinted
  obtain ⟨houtcome, hengine, hdisk⟩ :=
    fileTranscript_of_linted (h.rewrites.isFile_eq file ▸ hfile) htext hlinted
  exact ⟨houtcome, h.append hfile hapart hengine hdisk⟩

/-- What becomes of the next file has been settled by the start, if it is linted without an
    error. -/
theorem LintedSince.exists_becomes {rest : List Path} (h : LintedSince start result done w)
    (hplaces : AtPlaces (done ++ file :: rest) start.disk)
    (hok : (ruleEngine.fileTranscript project c file w).outcome = .ok ()) :
    ∃ l, becomes? project start c file = some l := by
  obtain ⟨text, l, htext, hlinted⟩ := exists_linted_of_fileTranscript hok
  rw [h.textToLint_eq hplaces.apart_of_append] at htext
  rw [h.registry_eq, h.options_eq] at hlinted
  exact ⟨l, becomes?_eq_some_iff.2 ⟨text, htext, hlinted⟩⟩

theorem LintsOnce.places {d : Disk} (h : LintsOnce options root project files d) :
    AtPlaces files d :=
  ⟨h.isFile, h.apart⟩

/-! ### What is settled is what happens -/

/-- What becomes of each file is settled by a world, whatever has been written to the files when a
    run comes to it: they are at places of their own, each has a text, and there are rules for the
    files that go together. -/
structure Settled (options : TaskOptions) (root : Path) (project : Option Project)
    (files : List Path) (start : World RuleEngine) (rules : Path → Ruleset)
    (result : Path → Linted) : Prop where
  places : AtPlaces files start.disk
  load : ∀ run ∈ folderRuns files, ∀ first ∈ run.head?, ∀ d,
    start.disk.Rewrites (fun place => ∃ file ∈ files, start.disk.At file place) d →
      ∃ c, (Ruleset.load start.engine.registry d
        (Engine.sourceFor options root first)).result = .ok c ∧ ∀ file ∈ run, c.Alike (rules file)
  becomes : ∀ file ∈ files, becomes? project start (rules file) file = some (result file)

/-- Only the disk and the engine settle anything, and where configurations come from. -/
theorem Settled.congr {options' : TaskOptions} {start' : World RuleEngine}
    (h : Settled options root project files start rules result)
    (hsource : Engine.sourceFor options' root = Engine.sourceFor options root)
    (hdisk : start'.disk = start.disk) (hengine : start'.engine = start.engine) :
    Settled options' root project files start' rules result where
  places := hdisk ▸ h.places
  load run hrun first hfirst d hd := by
    rw [hsource, hengine]
    exact h.load run hrun first hfirst d (hdisk ▸ hd)
  becomes file hfile := by
    rw [becomes?, hdisk, hengine]
    exact h.becomes file hfile

/-- All that is recorded for a file is recorded under its path. -/
theorem Settled.path_eq (h : Settled options root project files start rules result)
    (hfile : file ∈ files) : (∀ x ∈ (result file).failures, x.path = file) ∧
      ∀ x ∈ (result file).fixes, x.path = file := by
  obtain ⟨text, -, hlinted⟩ := becomes?_eq_some_iff.1 (h.becomes file hfile)
  exact Ruleset.path_of_linted? hlinted

/-- Where all that comes of an element carries its key, what carries a key comes of one element. -/
theorem filter_flatMap_eq {α β : Type} [DecidableEq α] {key : β → α} {f : α → List β} {l : List α}
    (hkey : ∀ a ∈ l, ∀ b ∈ f a, key b = a) (hnodup : l.Nodup) (a : α) :
    (l.flatMap f).filter (fun b => key b = a) = if a ∈ l then f a else [] := by
  induction l with
  | nil => rfl
  | cons x l ih =>
    rw [List.forall_mem_cons] at hkey
    rw [List.nodup_cons] at hnodup
    rw [List.flatMap_cons, List.filter_append, ih hkey.2 hnodup.2]
    by_cases hx : a = x
    · subst hx
      rw [if_neg hnodup.1, if_pos List.mem_cons_self, List.append_nil, List.filter_eq_self]
      exact fun b hb => decide_eq_true (hkey.1 b hb)
    · have hnil : (f x).filter (fun b => key b = a) = [] :=
        List.filter_eq_nil_iff.2 fun b hb => by simp [hkey.1 b hb, Ne.symm hx]
      rw [hnil, List.nil_append]
      simp only [List.mem_cons, hx, false_or]

/-- Files are linted one after the other under one configuration. -/
theorem LintedSince.inOrder {run rest : List Path} (h : LintedSince start result done w)
    (hplaces : AtPlaces (done ++ (run ++ rest)) start.disk)
    (halike : ∀ file ∈ run, c.Alike (rules file))
    (hbecomes : ∀ file ∈ run, becomes? project start (rules file) file = some (result file)) :
    let t := Transcript.inOrder (run.map (ruleEngine.fileTranscript project c)) w
    t.outcome = .ok () ∧ LintedSince start result (done ++ run) t.world := by
  induction run generalizing done w with
  | nil => exact ⟨rfl, by rwa [List.append_nil]⟩
  | cons file run ih =>
    rw [List.forall_mem_cons] at halike hbecomes
    obtain ⟨houtcome, hsince⟩ := h.lint hplaces halike.1 hbecomes.1
    rw [List.cons_append, List.append_cons] at hplaces
    rw [List.map_cons, Transcript.inOrder]
    dsimp only
    rw [Transcript.outcome_andThen houtcome, Transcript.world_andThen houtcome, List.append_cons]
    exact ih hsince hplaces halike.2 hbecomes.2

/-- The files of a folder are linted under the configuration of the first of them. -/
theorem LintedSince.folder {run rest : List Path} (h : LintedSince start result done w)
    (hplaces : AtPlaces (done ++ (run ++ rest)) start.disk)
    (hload : ∀ first ∈ run.head?, ∀ d, start.disk.Rewrites
      (fun place => ∃ file ∈ done ++ (run ++ rest), start.disk.At file place) d →
        ∃ c, (Ruleset.load start.engine.registry d
          (Engine.sourceFor options root first)).result = .ok c ∧
            ∀ file ∈ run, c.Alike (rules file))
    (hbecomes : ∀ file ∈ run, becomes? project start (rules file) file = some (result file)) :
    let t := ruleEngine.folderTranscript options root project run w
    t.outcome = .ok () ∧ LintedSince start result (done ++ run) t.world := by
  cases run with
  | nil => exact ⟨rfl, by rwa [List.append_nil]⟩
  | cons first others =>
    -- What has been written until then is in files that have been linted.
    obtain ⟨c, hc, halike⟩ := hload first rfl w.disk <| h.rewrites.mono
      fun place ⟨file, hfile, _, hat⟩ => ⟨file, List.mem_append_left _ hfile, hat⟩
    rw [← h.registry_eq] at hc
    obtain ⟨told, hfolder⟩ := folderTranscript_of_load project others hc
    rw [hfolder]
    dsimp only
    rw [Transcript.outcome_andThen rfl, Transcript.world_andThen rfl]
    exact (h.told told).inOrder hplaces halike hbecomes

/-- Folders are linted one after the other, each under the configuration of its first file. -/
theorem LintedSince.folders {runs : List (List Path)} (h : LintedSince start result done w)
    (hplaces : AtPlaces (done ++ runs.flatten) start.disk)
    (hload : ∀ run ∈ runs, ∀ first ∈ run.head?, ∀ d, start.disk.Rewrites
      (fun place => ∃ file ∈ done ++ runs.flatten, start.disk.At file place) d →
        ∃ c, (Ruleset.load start.engine.registry d
          (Engine.sourceFor options root first)).result = .ok c ∧
            ∀ file ∈ run, c.Alike (rules file))
    (hbecomes : ∀ run ∈ runs, ∀ file ∈ run,
      becomes? project start (rules file) file = some (result file)) :
    let t := Transcript.inOrder (runs.map (ruleEngine.folderTranscript options root project)) w
    t.outcome = .ok () ∧ LintedSince start result (done ++ runs.flatten) t.world := by
  induction runs generalizing done w with
  | nil => exact ⟨rfl, by rwa [List.flatten_nil, List.append_nil]⟩
  | cons run runs ih =>
    rw [List.forall_mem_cons] at hload hbecomes
    rw [List.flatten_cons] at hplaces hload ⊢
    obtain ⟨houtcome, hsince⟩ := h.folder hplaces hload.1 hbecomes.1
    rw [← List.append_assoc] at hplaces hload ⊢
    rw [List.map_cons, Transcript.inOrder]
    dsimp only
    rw [Transcript.outcome_andThen houtcome, Transcript.world_andThen houtcome]
    exact ih hsince hplaces hload.2 hbecomes.2

/-- A run of files for which all is settled comes to its end, and leaves what is settled. -/
theorem lintAll_of_settled (h : Settled options root project files start rules result) :
    ∃ after, ruleEngine.lintAll options root project files start =
        (.ok (folderRuns files).length, after) ∧ LintedSince start result files after := by
  obtain ⟨hflatten, -⟩ := folderRuns_eq_iff.1 (rfl : folderRuns files = _)
  have hall : ruleEngine.lintAll options root project files start = _ :=
    ruleEngine.lintAll_of_logs options root project ruleEngine.logs_self files start []
  have hmem : ∀ run ∈ folderRuns files, ∀ file ∈ run, file ∈ files := fun run hrun file hfile => by
    rw [hflatten]
    exact List.mem_flatten_of_mem hrun hfile
  obtain ⟨houtcome, hsince⟩ := (LintedSince.refl start result).folders
    (by rw [List.nil_append, ← hflatten]; exact h.places)
    (by rw [List.nil_append, ← hflatten]; exact h.load)
    fun run hrun file hfile => h.becomes file (hmem run hrun file hfile)
  rw [List.nil_append, ← hflatten] at hsince
  refine ⟨_, hall.trans ?_, hsince⟩
  dsimp only [Engine.transcript]
  rw [houtcome]
  rfl

/-! ### What happens has been settled -/

/-- Files that are linted under one configuration, without an error. -/
theorem LintedSince.of_inOrder {run rest : List Path} (h : LintedSince start result done w)
    (hplaces : AtPlaces (done ++ (run ++ rest)) start.disk)
    (hresult : ∀ file ∈ run, ∀ l, becomes? project start c file = some l → result file = l)
    (hok : (Transcript.inOrder (run.map (ruleEngine.fileTranscript project c)) w).outcome =
      .ok ()) :
    (∀ file ∈ run, becomes? project start c file = some (result file)) ∧
      LintedSince start result (done ++ run)
        (Transcript.inOrder (run.map (ruleEngine.fileTranscript project c)) w).world := by
  induction run generalizing done w with
  | nil => exact ⟨List.forall_mem_nil _, by rwa [List.append_nil]⟩
  | cons file run ih =>
    rw [List.forall_mem_cons] at hresult ⊢
    rw [List.map_cons, Transcript.inOrder] at hok ⊢
    obtain ⟨hfirst, hrest⟩ := Transcript.of_outcome_andThen hok
    obtain ⟨l, hl⟩ := h.exists_becomes hplaces hfirst
    rw [← hresult.1 l hl] at hl
    obtain ⟨-, hsince⟩ :=
      @LintedSince.lint start w c (fun _ => c) _ _ _ _ _ h hplaces (.refl c) hl
    rw [List.cons_append, List.append_cons] at hplaces
    obtain ⟨hbecomes, hsince⟩ := ih hsince hplaces hresult.2 hrest
    rw [Transcript.world_andThen hfirst, List.append_cons]
    exact ⟨⟨hl, hbecomes⟩, hsince⟩

/-- The rules for the files of a folder are those that could be loaded at the start for the first of
    them. -/
def LoadedFirst (options : TaskOptions) (root : Path) (start : World RuleEngine)
    (rules : Path → Ruleset) (runs : List (List Path)) : Prop :=
  ∀ run ∈ runs, ∀ first ∈ run.head?, ∀ file ∈ run, (Ruleset.load start.engine.registry start.disk
    (Engine.sourceFor options root first)).result = .ok (rules file)

/-- Nothing that is read for the configuration of the first file of a folder is at a place. -/
def ConfiguredApart (options : TaskOptions) (root : Path) (d : Disk) (places : Disk.Place → Prop)
    (runs : List (List Path)) : Prop :=
  ∀ run ∈ runs, ∀ first ∈ run.head?, ∀ p, (Engine.sourceFor options root first).file? d = some p →
    LintConfig.Apart d places [] p

/-- A folder that is linted without an error, when what has been written is not read for its
    configuration: the rules are those that could be loaded at the start. -/
theorem LintedSince.of_folder {first : Path} {others rest : List Path}
    {places : Disk.Place → Prop} (h : LintedSince start result done w)
    (hplaces : AtPlaces (done ++ (first :: others ++ rest)) start.disk)
    (hmem : ∀ file ∈ done, ∀ place, start.disk.At file place → places place)
    (hrules : ∀ c, (Ruleset.load start.engine.registry start.disk
      (Engine.sourceFor options root first)).result = .ok c →
        ∀ file ∈ first :: others, rules file = c)
    (hresult : ∀ file l, becomes? project start (rules file) file = some l → result file = l)
    (hread : ∀ source, .load source ∈
        (ruleEngine.folderTranscript options root project (first :: others) w).calls →
      ∀ p, source.file? start.disk = some p → LintConfig.Apart start.disk places [] p)
    (hok : (ruleEngine.folderTranscript options root project (first :: others) w).outcome =
      .ok ()) :
    LoadedFirst options root start rules [first :: others] ∧
      ConfiguredApart options root start.disk places [first :: others] ∧
      (∀ file ∈ first :: others, becomes? project start (rules file) file = some (result file)) ∧
      LintedSince start result (done ++ (first :: others))
        (ruleEngine.folderTranscript options root project (first :: others) w).world := by
  obtain ⟨c, told, hload, hfolder⟩ := exists_load_of_folderTranscript hok
  rw [hfolder] at hok hread ⊢
  have hapart := hread _ List.mem_cons_self
  -- What has been written until then is not read for the configuration.
  rw [h.registry_eq] at hload
  have hwritten : ∀ place, (∃ file ∈ done, (result file).written.isSome ∧
      start.disk.At file place) → places place := by
    rintro place ⟨file, hfile, -, hat⟩
    exact hmem file hfile place hat
  have hstart := Ruleset.load_of_rewritten hload hapart (h.rewrites.mono hwritten)
  have hc := hrules c hstart
  obtain ⟨hbecomes, hsince⟩ := (h.told told).of_inOrder hplaces
    (fun file hfile l hl => hresult file l (hc file hfile ▸ hl)) hok
  refine ⟨List.forall_mem_singleton.2 ?_, List.forall_mem_singleton.2 ?_,
    fun file hfile => ?_, hsince⟩
  · rintro _ ⟨⟩ file hfile
    rw [hc file hfile]
    exact hstart
  · rintro _ ⟨⟩
    exact hapart
  · rw [hc file hfile]
    exact hbecomes file hfile

/-- Folders that are linted without an error, when what has been written is read for no
    configuration. -/
theorem LintedSince.of_folders {runs : List (List Path)} {places : Disk.Place → Prop}
    (h : LintedSince start result done w) (hplaces : AtPlaces (done ++ runs.flatten) start.disk)
    (hmem : ∀ file ∈ done ++ runs.flatten, ∀ place, start.disk.At file place → places place)
    (hrules : ∀ run ∈ runs, ∀ first ∈ run.head?, ∀ c, (Ruleset.load start.engine.registry
      start.disk (Engine.sourceFor options root first)).result = .ok c →
        ∀ file ∈ run, rules file = c)
    (hresult : ∀ file l, becomes? project start (rules file) file = some l → result file = l)
    (hread : ∀ source, .load source ∈ (Transcript.inOrder
        (runs.map (ruleEngine.folderTranscript options root project)) w).calls →
      ∀ p, source.file? start.disk = some p → LintConfig.Apart start.disk places [] p)
    (hok : (Transcript.inOrder (runs.map (ruleEngine.folderTranscript options root project))
      w).outcome = .ok ()) :
    LoadedFirst options root start rules runs ∧
      ConfiguredApart options root start.disk places runs ∧
      ∀ run ∈ runs, ∀ file ∈ run, becomes? project start (rules file) file =
        some (result file) := by
  induction runs generalizing done w with
  | nil => exact ⟨List.forall_mem_nil _, List.forall_mem_nil _, List.forall_mem_nil _⟩
  | cons run runs ih =>
    rw [List.forall_mem_cons] at hrules
    rw [List.map_cons, Transcript.inOrder] at hread hok
    rw [List.flatten_cons] at hplaces hmem
    obtain ⟨hfirst, hrest⟩ := Transcript.of_outcome_andThen hok
    have hnext := fun source hsource =>
      hread source (Transcript.mem_calls_andThen_of_ok hfirst hsource)
    cases run with
    | nil =>
      obtain ⟨hloaded, hapart, hbecomes⟩ := ih h hplaces hmem hrules.2 hnext hrest
      have hnone : ∀ {P : Path → Prop}, ∀ first ∈ ([] : List Path).head?, P first :=
        fun _ hfirst => by cases hfirst
      exact ⟨List.forall_mem_cons.2 ⟨hnone, hloaded⟩, List.forall_mem_cons.2 ⟨hnone, hapart⟩,
        List.forall_mem_cons.2 ⟨List.forall_mem_nil _, hbecomes⟩⟩
    | cons first others =>
      obtain ⟨hloaded, hapart, hbecomes, hsince⟩ := h.of_folder hplaces
        (fun file hfile => hmem file (List.mem_append_left _ hfile)) (hrules.1 first rfl) hresult
        (fun source hsource => hread source (Transcript.mem_calls_andThen hsource)) hfirst
      rw [← List.append_assoc] at hplaces hmem
      obtain ⟨hloaded', hapart', hbecomes'⟩ := ih hsince hplaces hmem hrules.2 hnext hrest
      exact ⟨List.forall_mem_cons.2 ⟨List.forall_mem_singleton.1 hloaded, hloaded'⟩,
        List.forall_mem_cons.2 ⟨List.forall_mem_singleton.1 hapart, hapart'⟩,
        List.forall_mem_cons.2 ⟨hbecomes, hbecomes'⟩⟩

/-- When a run comes to its end, all that it comes to has been settled by its start, if none of the
    files is read as a configuration. -/
theorem exists_settled (start : World RuleEngine) {n : ℕ} (hplaces : AtPlaces files start.disk)
    (hread : ReadsNone start.disk
      (ruleEngine.logged.lintAll options root project files start.logging).2.engine.2 files)
    (hok : (ruleEngine.lintAll options root project files start).1 = .ok n) :
    ∃ rules result, Settled options root project files start rules result ∧
      LoadedFirst options root start rules (folderRuns files) ∧
      ConfiguredApart options root start.disk
        (fun place => ∃ file ∈ files, start.disk.At file place) (folderRuns files) := by
  obtain ⟨hflatten, -⟩ := folderRuns_eq_iff.1 (rfl : folderRuns files = _)
  have hlogged : ruleEngine.logged.lintAll options root project files start.logging = _ :=
    ruleEngine.lintAll_of_logs options root project ruleEngine.logs_logged files start []
  rw [hlogged] at hread
  obtain ⟨rules, hrules⟩ :=
    exists_rules options root start (nodup_of_apart hplaces.isFile hplaces.apart)
  -- What becomes of each file is settled by its text at the start and the rules of its folder.
  let result file := (becomes? project start (rules file) file).getD {}
  have hread' : ∀ source, .load source ∈ (Transcript.inOrder ((folderRuns files).map
      (ruleEngine.folderTranscript options root project)) start).calls →
      ∀ p, source.file? start.disk = some p →
      LintConfig.Apart start.disk (fun place => ∃ file ∈ files, start.disk.At file place) [] p := by
    rintro source hsource p hp q hq place hat ⟨file, hfile, hat'⟩
    exact hread source hsource p q hp hq file hfile place hat' hat
  obtain ⟨hloaded, hapart, hbecomes⟩ := (LintedSince.refl start result).of_folders
    (by rw [List.nil_append, ← hflatten]; exact hplaces)
    (by rw [List.nil_append, ← hflatten]; exact fun file hfile place hat => ⟨file, hfile, hat⟩)
    hrules (fun file l hl => by rw [show result file = _ from congrArg (Option.getD · _) hl]; rfl)
    hread' (outcome_transcript hok)
  refine ⟨rules, result, ⟨hplaces, fun run hrun first hfirst d hd => ?_, fun file hfile => ?_⟩,
    hloaded, hapart⟩
  · obtain ⟨c, hc, halike⟩ := Ruleset.exists_load_alike (.refl _) hd (hapart run hrun first hfirst)
      (.inl rfl) (hloaded run hrun first hfirst first (List.mem_of_mem_head? hfirst))
    refine ⟨c, hc, fun file hfile => ?_⟩
    have hsame := (hloaded run hrun first hfirst first (List.mem_of_mem_head? hfirst)).symm.trans
      (hloaded run hrun first hfirst file hfile)
    rw [← Except.ok.inj hsame]
    exact halike.symm
  · obtain ⟨run, hrun, -, -, hfile⟩ := exists_folderRun hfile
    exact hbecomes run hrun file hfile

/-! ### The whole run -/

/-- A run leaves what is settled for its files, and decides by it. -/
theorem run_of_settled {set : FileSet}
    (hset : (FileSet.resolve w.disk options root).result = .ok set)
    (h : Settled options root set.project set.files (ruleEngine.prepared options root w) rules
      result) :
    LintedSince (ruleEngine.prepared options root w) result set.files
        (ruleEngine.run options root w).2 ∧
      (ruleEngine.run options root w).1 =
        outcomeFor options (ruleEngine.run options root w).2.engine.result := by
  obtain ⟨after, hlinted, hengine', hrewrites, hoverwrites, hread, hdisk'⟩ := lintAll_of_settled h
  obtain ⟨hdisk, hengine, houtcome⟩ := run_of_lintAll hset hlinted
  rw [← hdisk] at hrewrites hoverwrites hread hdisk'
  rw [← hengine] at houtcome
  exact ⟨⟨hengine.trans hengine', hrewrites, hoverwrites, hread, hdisk'⟩, houtcome⟩

/-! ### A file alone with its configuration -/

/-- A file and a configuration in the root. -/
def aloneDisk (config text : String) : Disk :=
  ⟨.folder [("a.ts", .file (.text text)), ("lintfix.json", .file (.text config))], [], none⟩

/-- The task to lint the file of `aloneDisk`. -/
def aloneTask : TaskOptions := { explicitFiles := some (.one "a.ts") }

theorem load_alone {config : String} {own : LintConfig} (text : String)
    (hown : LintConfig.ofText config = .ok own) (hparents : own.parents ⟨"/lintfix.json"⟩ = [])
    (hconfig : c.config = own.inheriting ⟨"/lintfix.json"⟩ [])
    (hactive : (Ruleset.pick [] c.config.rulesOn).result = .ok c.active) :
    (Ruleset.load [] (aloneDisk config text) (.nearest ⟨"/a.ts"⟩)).result = .ok c :=
  have hfound : (ConfigSource.nearest ⟨"/a.ts"⟩).file? (aloneDisk config text) =
      some ⟨"/lintfix.json"⟩ := rfl
  have hread : LintConfig.readOwn (aloneDisk config text) ⟨"/lintfix.json"⟩ = .ok own :=
    LintConfig.readOwn_eq_ok_iff.2 ⟨config, rfl, hown⟩
  Ruleset.load_of_own hfound hread hparents hconfig hactive

/-- A run for the file leaves what comes of linting it, and decides by it. -/
theorem run_alone {e : RuleEngine} {config text content : String} (hregistry : e.registry = [])
    (hload : (Ruleset.load [] (aloneDisk config text) (.nearest ⟨"/a.ts"⟩)).result = .ok c)
    (htext : textToLint (aloneDisk config text) none ⟨"/a.ts"⟩ = .ok (some content))
    (hlinted : c.linted? [] true ⟨"/a.ts"⟩ (some content) = some l) :
    let w : World RuleEngine := { disk := aloneDisk config text, engine := e }
    let ran := ruleEngine.run aloneTask ⟨"/"⟩ w
    ruleEngine.Finishes aloneTask ⟨"/"⟩ w ∧
      ran.1 = outcomeFor aloneTask ran.2.engine.result ∧
      ran.2.engine = { e with options := {} }.recorded l.failures l.fixes ∧
      ran.2.disk = aloneDisk config (l.written.getD text) := by
  have hset : (FileSet.resolve (aloneDisk config text) aloneTask ⟨"/"⟩).result =
      .ok ⟨[⟨"/a.ts"⟩], none⟩ := rfl
  set start := ruleEngine.prepared aloneTask ⟨"/"⟩ { disk := aloneDisk config text, engine := e }
  have hregistry' : start.engine.registry = [] := hregistry
  have hload' : (Ruleset.load start.engine.registry start.disk
      (Engine.sourceFor aloneTask ⟨"/"⟩ ⟨"/a.ts"⟩)).result = .ok c := by
    rw [hregistry']
    exact hload
  have hlinted' : c.linted? start.engine.registry start.engine.options.fix ⟨"/a.ts"⟩
      (some content) = some l := by
    rw [hregistry']
    exact hlinted
  obtain ⟨told, hall⟩ := lintAll_of_load none (folderRuns_singleton _) hload'
  obtain ⟨houtcome, hengine, hstores⟩ :=
    fileTranscript_of_linted (w := { start with trace := told }) rfl htext hlinted'
  rw [List.map_singleton, Transcript.inOrder, Transcript.andThen_inOrder_nil] at hall
  dsimp only at hall
  rw [houtcome] at hall
  obtain ⟨hdisk, hengine', houtcome'⟩ := run_of_lintAll (n := 1)
    (w := { disk := aloneDisk config text, engine := e }) hset hall
  have hwritten : (aloneDisk config text).Stores ⟨"/a.ts"⟩ l.written
      (aloneDisk config (l.written.getD text)) := by
    cases l.written <;> rfl
  refine ⟨⟨_, 1, hset, congrArg Prod.fst hall⟩, ?_, hengine'.trans hengine, ?_⟩
  · exact houtcome'.trans (congrArg (outcomeFor _) (congrArg RuleEngine.result hengine'.symm))
  · exact hdisk.trans (hstores.unique hwritten)

end RuleEngine

end Autofix
