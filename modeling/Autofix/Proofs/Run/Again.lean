import Autofix.Proofs.Include.Meaning
import Autofix.Proofs.Project.Reloading
import Autofix.Proofs.Run.Linted

/-!
# Running again

A run that leaves nothing to fix has come to rest: a second run lints the same files, writes
nothing, records the same failures and comes to the same outcome (`RuleEngine.run_again`). The text
that has been checked after fixing is the one that the second run reads, and where fixes have
emptied a file, which is not linted any more, pattern rules had found nothing either.

A project keeps the texts under the normal form of their paths. Where the path of a file leads to
something else than its normal form, the second run reads the text that has been fixed already once
more, and fixes it once more (`RuleEngine.fixed_again_beside_member`).
-/

namespace Autofix

/-- Linting a file again comes to the same failures and to nothing else. -/
def Linted.again (l : Linted) : Linted := ⟨none, l.failures, []⟩

/-! ### Empty texts -/

namespace Ruleset

variable {registry : Registry} {c : Ruleset} {path : Path}

/-- Pattern rules find nothing in an empty text. -/
theorem check_empty (hpattern : ∀ a ∈ c.active, a.pattern.isSome) :
    c.check registry path "" = [] := by
  refine List.eq_nil_iff_forall_not_mem.2 fun d hd => ?_
  obtain ⟨-, -, r, -, m, hm, hne, -⟩ := exists_match_of_mem_check hpattern hd
  -- There is only one place in an empty text where a match could start and stop.
  have hzero : ∀ {n}, Text.isBoundary "".toList n → n = 0 := fun h => by
    obtain ⟨before, after, hcut, rfl⟩ := Text.isBoundary_iff.1 h
    obtain ⟨rfl, rfl⟩ := List.append_eq_nil_iff.1 hcut.symm
    rfl
  obtain ⟨-, hstart, hstop⟩ := Regex.bounds_of_mem_findAll hm
  exact hne ((hzero hstart).trans (hzero hstop).symm)

end Ruleset

/-! ### Texts of a project -/

/-- Where the path of a file and its normal form lead to the same text, a loaded project has the
    text to lint that is on the disk, if the file is a member. -/
theorem textToLint_project_eq_ok_iff {d : Disk} {path file : Path} {project : Project}
    {text : Option String} (hload : (Project.load d path).result = .ok project)
    (hread : d.readText file.normalize = d.readText file) :
    textToLint d (some project) file = .ok text ↔
      file.normalize ∈ project.fileNames ∧ textToLint d none file = .ok text := by
  have hread' : SourceText.read d file.normalize = SourceText.read d file := by
    rw [SourceText.read, SourceText.read, hread]
  have htext : ∀ text, project.textOf? file = some text ↔ file.normalize ∈ project.fileNames ∧
      SourceText.read d file.normalize = .ok text := fun _ => Project.textOf?_eq_some_iff hload
  rw [hread'] at htext
  rw [textToLint_none_eq_ok_iff]
  constructor
  · intro h
    cases hkept : project.textOf? file with
    | none =>
      simp only [textToLint, hkept] at h
      cases h
    | some s =>
      obtain ⟨hmem, hs⟩ := (htext s).1 hkept
      simp only [textToLint, hkept] at h
      exact ⟨hmem, s, hs, (Except.ok.inj h).symm⟩
  · rintro ⟨hmem, s, hs, rfl⟩
    simp only [textToLint, (htext s).2 ⟨hmem, hs⟩]
    rfl

namespace RuleEngine

variable {start w w' : World RuleEngine} {rules : Path → Ruleset} {result : Path → Linted}
  {files : List Path} {file : Path} {options : TaskOptions} {root : Path}
  {project project' : Option Project}

/-! ### One file -/

/-- A path that leads to the place of a file leads to no other one. -/
theorem AtPlaces.eq_of_at {d : Disk} (h : AtPlaces files d) {other : Path} (hfile : file ∈ files)
    (hother : other ∈ files) {place : Disk.Place} (hat : d.At file place)
    (hat' : d.At other place) : other = file := by
  have hsymm : Std.Symm fun p q : Path => ∀ place, d.At p place → ¬d.At q place :=
    ⟨fun p q h place hq hp => h place hp hq⟩
  by_contra hne
  exact h.apart.forall hother hfile hne place hat' hat

/-- What becomes of a file that is linted again, with the text that has been left in it. -/
theorem becomes?_again {c : Ruleset} (hdone : LintedSince start result files w)
    (hplaces : AtPlaces files start.disk) (hfile : file ∈ files)
    (hpattern : ∀ a ∈ c.active, a.pattern.isSome)
    (hsettled : ∀ x ∈ (result file).failures, x.fix = none)
    (hunmarked : ∀ s, (result file).written = some s →
      s.toList.head? ≠ some SourceText.byteOrderMark)
    (hproject : ∀ text, textToLint start.disk project file = .ok text →
      textToLint start.disk none file = .ok text)
    (hproject' : ∀ text, textToLint start.disk project file = .ok text → ∀ text',
      textToLint w.disk none file = .ok text' → textToLint w.disk project' file = .ok text')
    (h : becomes? project start c file = some (result file)) :
    becomes? project' { start with disk := w.disk } c file = some (result file).again := by
  obtain ⟨text, htext, hlinted⟩ := becomes?_eq_some_iff.1 h
  have hread' := hproject' text htext
  rw [becomes?_eq_some_iff]
  have hkept : (result file).written = none → textToLint w.disk none file = .ok text :=
    fun hnone => by
      rw [textToLint_congr, hproject text htext]
      refine hdone.rewrites.readText_eq fun place hat ⟨other, hother, hsome, hat'⟩ => ?_
      rw [hplaces.eq_of_at hfile hother hat hat', hnone] at hsome
      cases hsome
  obtain hl | ⟨content, rfl, hkeep, hl | ⟨fixed, -, -, hl⟩⟩ := Ruleset.linted?_cases hlinted
  · rw [hl] at hkept hlinted ⊢
    exact ⟨text, hread' text (hkept rfl), hlinted⟩
  · rw [hl] at hkept hlinted ⊢
    exact ⟨some content, hread' _ (hkept rfl), hlinted⟩
  · -- What has been checked after fixing is what is on the disk, as it starts with no mark.
    have hread : SourceText.read w.disk file = .ok fixed.content := by
      rw [SourceText.read, hdone.read_eq file hfile fixed.content (by rw [hl])]
      exact congrArg Except.ok (SourceText.withoutMark_eq (hunmarked _ (by rw [hl])))
    rw [hl] at hsettled ⊢
    refine ⟨_, hread' _ (textToLint_none_eq_ok_iff.2 ⟨_, hread, rfl⟩), ?_⟩
    split_ifs with hempty
    · simp only [Linted.again, hempty, Ruleset.check_empty hpattern]
      rfl
    · have hnone : (c.check start.engine.registry file fixed.content).any (·.fix.isSome) = false :=
        List.any_eq_false.2 fun x hx => by simp [hsettled x hx]
      rw [Ruleset.linted?, hkeep]
      simp only [Ruleset.lintedText?, hnone, Bool.and_false, Bool.false_eq_true, if_false]
      rfl

/-! ### All files -/

/-- The rules that a run loads for its files are pattern rules. -/
def RunsPatternRules (options : TaskOptions) (root : Path) (files : List Path)
    (w : World RuleEngine) : Prop :=
  ∀ run ∈ folderRuns files, ∀ first ∈ run.head?, ∀ c, (Ruleset.load w.engine.registry w.disk
    (Engine.sourceFor options root first)).result = .ok c → ∀ a ∈ c.active, a.pattern.isSome

/-- For files that are linted again all is settled, if it was for linting them once. -/
theorem Settled.again (h : Settled options root project files start rules result)
    (hdone : LintedSince start result files w)
    (hbecomes : ∀ file ∈ files, becomes? project' { start with disk := w.disk } (rules file) file =
      some (result file).again) :
    Settled options root project' files { start with disk := w.disk } rules
      fun file => (result file).again where
  places := h.places.rewritten hdone.rewrites
  load run hrun first hfirst d hd := by
    refine h.load run hrun first hfirst d ?_
    have hsince : start.disk.Rewrites (fun place => ∃ file ∈ files, start.disk.At file place)
        w.disk := hdone.rewrites.mono fun place ⟨file, hfile, _, hat⟩ => ⟨file, hfile, hat⟩
    exact hsince.trans <| hd.mono fun place ⟨file, hfile, hat⟩ =>
      ⟨file, hfile, hdone.rewrites.at_iff.1 hat⟩
  becomes := hbecomes

/-- Where files that held texts have been linted, texts have been written to files that held
    texts. -/
theorem LintedSince.retexted (h : LintedSince start result files w)
    (htexts : ∀ file ∈ files, ∃ s, start.disk.readText file = .ok s) :
    start.disk.Retexted w.disk where
  overwrites := h.overwrites
  readText_eq p := by
    rcases h.readText_eq p with ⟨file, hfile, s, -, ⟨place, hat, hp⟩, hread⟩ | ⟨-, hread⟩
    · rw [Disk.readText_eq_of_at hp hat]
      exact .inr ⟨htexts file hfile, s, hread⟩
    · exact .inl hread

/-- Where something has been written to a file, a fix has been recorded for it. -/
theorem Settled.fixes_ne_nil (h : Settled options root project files start rules result)
    (hfile : file ∈ files) {s : String} (hs : (result file).written = some s) :
    (result file).fixes ≠ [] := by
  obtain ⟨text, -, hlinted⟩ := becomes?_eq_some_iff.1 (h.becomes file hfile)
  obtain hl | ⟨content, -, -, hl | ⟨fixed, -, hne, hl⟩⟩ := Ruleset.linted?_cases hlinted
  · rw [hl] at hs
    cases hs
  · rw [hl] at hs
    cases hs
  · rw [hl]
    exact hne

/-- No text that has been written starts with a mark, if none that is there does. -/
theorem LintedSince.head?_ne (hdone : LintedSince start result files w)
    (h : Settled options root project files start rules result) (hunmarked : Unmarked start w)
    (hfile : file ∈ files) {s : String} (hs : (result file).written = some s) :
    s.toList.head? ≠ some SourceText.byteOrderMark := by
  obtain ⟨x, hx⟩ := List.exists_mem_of_ne_nil _ (h.fixes_ne_nil hfile hs)
  have hsince : fixesSince start w = files.flatMap fun file => (result file).fixes := by
    rw [fixesSince, hdone.engine_eq, recorded, List.drop_left]
  have hpath := (h.path_eq hfile).2 x hx
  refine hunmarked x ?_ s (hpath ▸ hdone.read_eq file hfile s hs)
  rw [hsince]
  exact List.mem_flatMap.2 ⟨file, hfile, hx⟩

theorem exists_readText_of_read {d : Disk} {text : String}
    (h : SourceText.read d file = .ok text) : ∃ s, d.readText file = .ok s := by
  rw [SourceText.read] at h
  cases hread : d.readText file with
  | ok s => exact ⟨s, rfl⟩
  | error e => simp [hread, Except.map] at h

/-- The text to lint of a member is the one that is on the disk. -/
theorem textToLint_of_resolve {d : Disk} {set : FileSet}
    (hset : (FileSet.resolve d options root).result = .ok set)
    (hnormal : set.project.isSome → ∀ file ∈ set.files, d.stat file.normalize = d.stat file)
    (hfile : file ∈ set.files) {text : Option String}
    (h : textToLint d set.project file = .ok text) : textToLint d none file = .ok text := by
  cases hproject : set.project with
  | none => rwa [hproject] at h
  | some project =>
    obtain ⟨path, hload⟩ := FileSet.exists_load_of_resolve hset hproject
    have hread : d.readText file.normalize = d.readText file := by
      rw [Disk.readText, Disk.readText, hnormal (by rw [hproject]; rfl) file hfile]
    rw [hproject] at h
    exact ((textToLint_project_eq_ok_iff hload hread).1 h).2

/-- And so it is after texts have been written. -/
theorem textToLint_of_reloaded {d d' : Disk} {places : Disk.Place → Prop}
    (hd : d.Rewrites places d') (hreloaded : Option.Rel (FileSet.Reloaded d d') project project')
    (hnormal : project.isSome → d.stat file.normalize = d.stat file) (hfile : d.isFile file)
    {text text' : Option String} (h : textToLint d project file = .ok text)
    (h' : textToLint d' none file = .ok text') : textToLint d' project' file = .ok text' := by
  cases hreloaded with
  | none => exact h'
  | some hreloaded =>
    obtain ⟨path, hload, hload', hnames⟩ := hreloaded
    obtain ⟨place, content, hat⟩ := Disk.isFile_iff.1 hfile
    have hstat := hnormal rfl
    have hread : d.readText file.normalize = d.readText file := by
      rw [Disk.readText, Disk.readText, hstat]
    have hread' : d'.readText file.normalize = d'.readText file :=
      Disk.readText_eq_of_at (hd.at_iff.2 ⟨_, hstat.trans hat⟩) (hd.at_iff.2 ⟨_, hat⟩)
    have hmem := ((textToLint_project_eq_ok_iff hload hread).1 h).1
    exact (textToLint_project_eq_ok_iff hload' hread').2 ⟨hnames ▸ hmem, h'⟩

/-- When a run has come to its end and left nothing to fix, all is settled for a second one. -/
theorem Settled.exists_again {set : FileSet}
    (h : Settled options root set.project set.files (ruleEngine.prepared options root w) rules
      result)
    (hdone : LintedSince (ruleEngine.prepared options root w) result set.files w')
    (hloaded : LoadedFirst options root (ruleEngine.prepared options root w) rules
      (folderRuns set.files))
    (hset : (FileSet.resolve w.disk options root).result = .ok set)
    (hproject : ∀ p, options.compilerConfigPath = some p → ∀ file ∈ set.files,
      ∀ place, w.disk.At file place → ¬w.disk.At (root.join p) place)
    (hnormal : set.project.isSome → ∀ file ∈ set.files,
      w.disk.stat file.normalize = w.disk.stat file)
    (hpattern : RunsPatternRules options root set.files w)
    (hfixed : ∀ x ∈ w'.engine.failures, x.fix = none) (hunmarked : Unmarked w w') :
    ∃ set', (FileSet.resolve w'.disk options root).result = .ok set' ∧ set'.files = set.files ∧
      Settled options root set'.project set'.files
        (ruleEngine.prepared options root { w with disk := w'.disk }) rules
        fun file => (result file).again := by
  have htext : ∀ file ∈ set.files, ∀ text, textToLint w.disk set.project file = .ok text →
      textToLint w.disk none file = .ok text :=
    fun file hfile text => textToLint_of_resolve hset hnormal hfile
  have htexts : ∀ file ∈ set.files, ∃ s, w.disk.readText file = .ok s := fun file hfile => by
    obtain ⟨text, hlint, -⟩ := becomes?_eq_some_iff.1 (h.becomes file hfile)
    obtain ⟨s, hs, -⟩ := textToLint_none_eq_ok_iff.1 (htext file hfile text hlint)
    exact exists_readText_of_read hs
  have hfailures : ∀ file ∈ set.files, ∀ x ∈ (result file).failures, x.fix = none := by
    refine fun file hfile x hx => hfixed x ?_
    rw [hdone.engine_eq]
    exact List.mem_append_right _ (List.mem_flatMap.2 ⟨file, hfile, hx⟩)
  have hpatternFile : ∀ file ∈ set.files, ∀ a ∈ (rules file).active, a.pattern.isSome := by
    intro file hfile
    obtain ⟨run, hrun, first, hfirst, hfile⟩ := exists_folderRun hfile
    exact hpattern run hrun first hfirst _ (hloaded run hrun first hfirst file hfile)
  -- Nothing has been written to the project file.
  obtain ⟨⟨files, project'⟩, hset', hfiles, hreloaded⟩ := FileSet.exists_resolve_again
    (hdone.retexted htexts) (fun p hp => hdone.rewrites.readText_eq
      fun place hat ⟨file, hfile, _, hat'⟩ => hproject p hp file hfile place hat' hat) hset
  obtain rfl : files = set.files := hfiles
  have hagain := h.again hdone fun file hfile =>
    becomes?_again hdone h.places hfile (hpatternFile file hfile) (hfailures file hfile)
      (fun s hs => hdone.head?_ne h hunmarked hfile hs) (htext file hfile)
      (fun text h₁ text' h₂ => textToLint_of_reloaded hdone.rewrites hreloaded
        (fun hsome => hnormal hsome file hfile) (h.places.isFile file hfile) h₁ h₂)
      (h.becomes file hfile)
  exact ⟨_, hset', rfl, hagain.congr rfl rfl rfl⟩

/-! ### The whole run -/

/-- What a second run comes to for which all is settled by the first one. -/
theorem Settled.run_again_eq {set set' : FileSet}
    (h : Settled options root set'.project set'.files
      (ruleEngine.prepared options root { w with disk := w'.disk }) rules
      fun file => (result file).again)
    (hdone : LintedSince (ruleEngine.prepared options root w) result set.files w')
    (hfresh : w.engine.fixes = [])
    (hset : (FileSet.resolve w'.disk options root).result = .ok set')
    (hfiles : set'.files = set.files) :
    let second := ruleEngine.run options root { w with disk := w'.disk }
    second.2.disk = w'.disk ∧ second.2.engine.fixes = [] ∧
      second.2.engine.failures = w'.engine.failures ∧
      second.1 = outcomeFor options second.2.engine.result := by
  obtain ⟨hdone', houtcome⟩ := run_of_settled (w := { w with disk := w'.disk }) hset h
  refine ⟨hdone'.disk_eq fun _ _ => rfl, ?_, ?_, houtcome⟩
  · rw [hdone'.engine_eq]
    change w.engine.fixes ++ set'.files.flatMap (fun _ => []) = []
    rw [hfresh, List.nil_append, List.flatMap_eq_nil_iff]
    exact fun _ _ => rfl
  · rw [hdone'.engine_eq, hdone.engine_eq, hfiles]
    rfl

/-- A run that records no failure with a fix leaves nothing to do for a second run by a fresh
    engine: it lints the same files, writes nothing, records no fix and the same failures in the
    same order, and comes to the same outcome. The rules have to be pattern rules; the files have to
    be at places of their own, none of them read as a configuration or as the project; no text that
    has been written may start with a byte-order mark; and where there is a project, the path of each
    file has to lead where its normal form leads. -/
theorem run_again {set : FileSet} {n : ℕ}
    (hfresh : w.engine.fixes = [])
    (hset : (FileSet.resolve w.disk options root).result = .ok set)
    (hplaces : AtPlaces set.files w.disk)
    (hread : ReadsNone w.disk (ruleEngine.logged.lintAll options root set.project set.files
      (ruleEngine.prepared options root w).logging).2.engine.2 set.files)
    (hproject : ∀ p, options.compilerConfigPath = some p → ∀ file ∈ set.files,
      ∀ place, w.disk.At file place → ¬w.disk.At (root.join p) place)
    (hnormal : set.project.isSome → ∀ file ∈ set.files,
      w.disk.stat file.normalize = w.disk.stat file)
    (hpattern : RunsPatternRules options root set.files w)
    (hall : (ruleEngine.lintAll options root set.project set.files
      (ruleEngine.prepared options root w)).1 = .ok n)
    (hfixed : ∀ x ∈ (ruleEngine.run options root w).2.engine.failures, x.fix = none)
    (hunmarked : Unmarked w (ruleEngine.run options root w).2) :
    let first := ruleEngine.run options root w
    let second := ruleEngine.run options root { w with disk := first.2.disk }
    (∃ set', (FileSet.resolve first.2.disk options root).result = .ok set' ∧
        set'.files = set.files) ∧
      second.2.disk = first.2.disk ∧ second.2.engine.fixes = [] ∧
      second.2.engine.failures = first.2.engine.failures ∧ second.1 = first.1 := by
  obtain ⟨rules, result, hsettled, hloaded, -⟩ :=
    exists_settled (ruleEngine.prepared options root w) hplaces hread hall
  obtain ⟨hdone, houtcome⟩ := run_of_settled hset hsettled
  generalize ruleEngine.run options root w = ran at *
  obtain ⟨outcome, after⟩ := ran
  dsimp only at hdone houtcome hfixed hunmarked ⊢
  obtain ⟨set', hset', hfiles, hsettled'⟩ :=
    hsettled.exists_again hdone hloaded hset hproject hnormal hpattern hfixed hunmarked
  obtain ⟨hdisk, hfixes, hsame, houtcome'⟩ :=
    hsettled'.run_again_eq hdone hfresh hset' hfiles
  have hcount : (ruleEngine.run options root
      { w with disk := after.disk }).2.engine.result.errorCount =
        after.engine.result.errorCount := by
    rw [LintResult.errorCount, LintResult.errorCount, RuleEngine.result, RuleEngine.result, hsame]
  exact ⟨⟨set', hset', hfiles⟩, hdisk, hfixes, hsame,
    houtcome'.trans ((outcomeFor_congr hcount).trans houtcome.symm)⟩

/-- The task to lint the members of the project of `letters`. -/
def membersTask : TaskOptions := { compilerConfigPath := some ⟨"project.json"⟩ }

theorem resolve_letters_members : (FileSet.resolve letters.disk membersTask ⟨"/"⟩).result =
    .ok ⟨[⟨"/a.ts"⟩, ⟨"/c.ts"⟩], some lettersProject⟩ := by
  have hpath : (Path.mk "/").join ⟨"project.json"⟩ = ⟨"/project.json"⟩ := by decide
  have hhas : letters.disk.has ⟨"/project.json"⟩ = true := rfl
  have hfiles : membersTask.files.isEmpty = true := rfl
  have hnamed : (FileSet.named letters.disk membersTask ⟨"/"⟩).result =
      .ok ⟨[⟨"/a.ts"⟩, ⟨"/c.ts"⟩], some lettersProject⟩ := by
    simp only [FileSet.named, show membersTask.compilerConfigPath = some ⟨"project.json"⟩ from rfl,
      hfiles, hpath, hhas, if_true, Traced.bind_result, bind_eq_ok_iff, load_lettersProject,
      Except.ok.injEq, exists_eq_left']
    rfl
  rw [FileSet.resolve]
  simp only [Traced.bind_result, bind_eq_ok_iff, hnamed, Except.ok.injEq, exists_eq_left']
  exact ⟨[], rfl, (), rfl, rfl⟩

/-- The project file is neither of the files that are linted. -/
theorem not_at_lettersProject {p : Path} (hp : membersTask.compilerConfigPath = some p) :
    ∀ file ∈ [⟨"/a.ts"⟩, ⟨"/c.ts"⟩], ∀ place, letters.disk.At file place →
      ¬letters.disk.At ((Path.mk "/").join p) place := by
  obtain rfl := Option.some.inj hp
  have hstat : letters.disk.stat ⟨"/project.json"⟩ = .ok (["project.json"], _) := rfl
  have hstat₁ : letters.disk.stat ⟨"/a.ts"⟩ = .ok (["a.ts"], _) := rfl
  have hstat₂ : letters.disk.stat ⟨"/c.ts"⟩ = .ok (["c.ts"], _) := rfl
  have hpath : (Path.mk "/").join ⟨"project.json"⟩ = ⟨"/project.json"⟩ := by decide
  rw [hpath]
  simp only [List.forall_mem_cons]
  exact ⟨fun _ => Disk.not_at_of_stat hstat₁ hstat (by decide),
    fun _ => Disk.not_at_of_stat hstat₂ hstat (by decide), List.forall_mem_nil _⟩

theorem runsPatternRules_letters :
    RunsPatternRules membersTask ⟨"/"⟩ [⟨"/a.ts"⟩, ⟨"/c.ts"⟩] letters := by
  have hruns : folderRuns [⟨"/a.ts"⟩, ⟨"/c.ts"⟩] = [[⟨"/a.ts"⟩, ⟨"/c.ts"⟩]] := by decide
  rw [RunsPatternRules, hruns]
  simp only [List.forall_mem_singleton, List.head?_cons, Option.mem_some_iff, forall_eq']
  intro c hc
  obtain rfl := Except.ok.inj (hc.symm.trans load_letters)
  simp [lettersRules, letterRules]

theorem run_again_letters :
    let files : List Path := [⟨"/a.ts"⟩, ⟨"/c.ts"⟩]
    (letters.engine.fixes = [] ∧
      (FileSet.resolve letters.disk membersTask ⟨"/"⟩).result =
        .ok ⟨files, some lettersProject⟩ ∧
      AtPlaces files letters.disk ∧
      ReadsNone letters.disk (ruleEngine.logged.lintAll membersTask ⟨"/"⟩ (some lettersProject)
        files (ruleEngine.prepared membersTask ⟨"/"⟩ letters).logging).2.engine.2 files ∧
      (∀ p, membersTask.compilerConfigPath = some p → ∀ file ∈ files,
        ∀ place, letters.disk.At file place → ¬letters.disk.At ((Path.mk "/").join p) place) ∧
      (∀ file ∈ files, letters.disk.stat file.normalize = letters.disk.stat file) ∧
      RunsPatternRules membersTask ⟨"/"⟩ files letters ∧
      (ruleEngine.lintAll membersTask ⟨"/"⟩ (some lettersProject) files
        (ruleEngine.prepared membersTask ⟨"/"⟩ letters)).1 = .ok 1 ∧
      (∀ x ∈ (ruleEngine.run membersTask ⟨"/"⟩ letters).2.engine.failures, x.fix = none) ∧
      Unmarked letters (ruleEngine.run membersTask ⟨"/"⟩ letters).2) ∧
    let first := ruleEngine.run membersTask ⟨"/"⟩ letters
    let second := ruleEngine.run membersTask ⟨"/"⟩ { letters with disk := first.2.disk }
    (∃ set', (FileSet.resolve first.2.disk membersTask ⟨"/"⟩).result = .ok set' ∧
        set'.files = files) ∧
      second.2.disk = first.2.disk ∧ second.2.engine.fixes = [] ∧
      second.2.engine.failures = first.2.engine.failures ∧ second.1 = first.1 := by
  have hmembers : LintsOnce membersTask ⟨"/"⟩ (some lettersProject) [⟨"/a.ts"⟩, ⟨"/c.ts"⟩]
      letters.disk :=
    ⟨lintsOnce_letters.isFile, lintsOnce_letters.apart,
      by simp only [List.forall_mem_cons]; exact ⟨rfl, rfl, List.forall_mem_nil _⟩,
      lintsOnce_letters.configured⟩
  have hread := LintsOnce.readsNone (w := ruleEngine.prepared membersTask ⟨"/"⟩ letters) hmembers
  have hnormal : ∀ file ∈ [⟨"/a.ts"⟩, ⟨"/c.ts"⟩],
      letters.disk.stat file.normalize = letters.disk.stat file := by
    have hnormal : ∀ file ∈ [⟨"/a.ts"⟩, (⟨"/c.ts"⟩ : Path)], file.normalize = file := by decide
    exact fun file hfile => by rw [hnormal file hfile]
  obtain ⟨w', hall, hdisk, hengine⟩ := lintAll_letters_both membersTask (some lettersProject)
    (w := ruleEngine.prepared membersTask ⟨"/"⟩ letters) rfl rfl rfl rfl rfl rfl
  obtain ⟨hdisk', hengine', -⟩ := run_of_lintAll resolve_letters_members hall
  have hdone := congrArg Prod.fst hall
  have hfixed : ∀ x ∈ (ruleEngine.run membersTask ⟨"/"⟩ letters).2.engine.failures,
      x.fix = none := by
    rw [hengine', hengine]
    exact List.forall_mem_nil _
  have hunmarked := unmarked_letters (hdisk'.trans hdisk) (by rw [hengine', hengine]; rfl)
  dsimp only
  have hagain := run_again (n := 1) rfl resolve_letters_members hmembers.places hread
    (fun _ => not_at_lettersProject) (fun _ => hnormal) runsPatternRules_letters hdone hfixed
    hunmarked
  exact ⟨⟨rfl, resolve_letters_members, hmembers.places, hread, fun _ => not_at_lettersProject,
    hnormal, runsPatternRules_letters, hdone, hfixed, hunmarked⟩, hagain⟩

/-! ### A member of the same name -/

/-- Two folders below the root, the current one has a file of the name that the file in the root
    has. The project file, in the root, lists that name. -/
def besideDisk (outer : String) : Disk :=
  ⟨.folder [("a", .folder [("b", .folder [("y.ts", .file (.text "a"))])]),
    ("lintfix.json", .file (.text lettersConfig)),
    ("project.json", .file (.text "\x7b\"files\": [\"y.ts\"]\x7d")),
    ("y.ts", .file (.text outer))], ["a", "b"], none⟩

/-- The task to lint the members of the project and the file in the root. -/
def besideTask : TaskOptions :=
  { compilerConfigPath := some ⟨"project.json"⟩, includePatterns := some (.one "y.ts") }

/-- The project that is loaded for both files. -/
def besideProject : Project := ⟨⟨"../../project.json"⟩, [(⟨"y.ts"⟩, "a")]⟩

theorem exists_matcher_beside : ∃ m, Include.Matcher.ofPatterns? ["y.ts"] = .ok m ∧
    m.isMatch "y.ts" ∧ ¬m.isMatch "a/b/y.ts" ∧ ¬m.isMatch "lintfix.json" ∧
      ¬m.isMatch "project.json" := by
  have hsize : Regex.read? {} (Include.source ["y.ts"]) ≠ .error .tooLarge :=
    Include.read?_source_ne_tooLarge (List.cons_ne_nil _ _) (by cbv)
  obtain ⟨r, hr, hmatch⟩ := Include.exists_read?_source (List.cons_ne_nil _ _) hsize
  have hpieces : Include.pieces "y.ts" =
      [.literal 'y', .literal '.', .literal 't', .literal 's'] := by decide
  simp only [List.mem_singleton, exists_eq_left, hpieces, Include.TakesAll, Include.Piece.Takes,
    ↓existsAndEq, true_and] at hmatch
  refine ⟨⟨Include.source ["y.ts"], r⟩, by simp only [Include.Matcher.ofPatterns?, hr], ?_⟩
  simp [Include.Matcher.isMatch, hmatch, Include.Closed]

theorem filesBelow_beside (outer : String) :
    ((besideDisk outer).filesBelow ⟨"../.."⟩).1 = .ok [⟨"../../a/b/y.ts"⟩,
      ⟨"../../lintfix.json"⟩, ⟨"../../project.json"⟩, ⟨"../../y.ts"⟩] := by
  have hstat : (besideDisk outer).stat ⟨"../.."⟩ = .ok ([], (besideDisk outer).root) := rfl
  have hroot : (besideDisk outer).root.children = [("a", .folder [("b", .folder
      [("y.ts", .file (.text "a"))])]), ("lintfix.json", .file (.text lettersConfig)),
      ("project.json", .file (.text "\x7b\"files\": [\"y.ts\"]\x7d")),
      ("y.ts", .file (.text outer))] := by
    refine Disk.Tree.children_folder ?_
    simp only [Dictionary.Ascending, List.pairwise_cons, List.forall_mem_cons]
    decide +revert
  have hsingle : ∀ name t, (Disk.Tree.folder [(name, t)]).children = [(name, t)] :=
    fun _ _ => Disk.Tree.children_folder (List.pairwise_singleton _ _)
  have hcount : (besideDisk outer).root.count = 7 := rfl
  have hbound : (besideDisk outer).walkBound = 729 := by rw [Disk.walkBound, hcount]
  have hshort : (Path.mk "../../a").isShort ∧ (Path.mk "../../a/b").isShort := by decide
  rw [Disk.filesBelow, hstat]
  simp [hroot, hsingle, hbound, hshort, Disk.filesIn, Disk.fileAt, Disk.Listing.append, Path.join,
    Path.isAbsolute, Except.map]

/-- The project file names a file by its path below it, and the run has that file from there. -/
theorem load_besideProject (outer : String) :
    (Project.load (besideDisk outer) ⟨"../../project.json"⟩).result = .ok besideProject := by
  have hfile : ProjectFile.ofText ⟨"../../project.json"⟩ "\x7b\"files\": [\"y.ts\"]\x7d" =
      .ok { files := some ["y.ts"] } := by cbv
  have hlisted : Project.listed { files := some ["y.ts"] }
      (Project.baseDir ⟨"../../project.json"⟩) = [⟨"y.ts"⟩] := by decide
  refine Project.load_eq_ok_iff.2 ⟨_, _, [], [(⟨"y.ts"⟩, "a")], [], rfl, hfile, ?_, ?_, rfl, rfl⟩
  · rfl
  · rw [hlisted]
    rfl

theorem named_beside (outer : String) :
    (FileSet.named (besideDisk outer) besideTask ⟨"../.."⟩).result =
      .ok ⟨[⟨"y.ts"⟩], some besideProject⟩ := by
  have hpath : (Path.mk "../..").join ⟨"project.json"⟩ = ⟨"../../project.json"⟩ := by decide
  have hhas : (besideDisk outer).has ⟨"../../project.json"⟩ = true := rfl
  have hfiles : besideTask.files.isEmpty = true := rfl
  simp only [FileSet.named, show besideTask.compilerConfigPath = some ⟨"project.json"⟩ from rfl,
    hfiles, hpath, hhas, if_true, Traced.bind_result, bind_eq_ok_iff, load_besideProject,
    Except.ok.injEq, exists_eq_left']
  rfl

theorem included_beside (outer : String) :
    (FileSet.included (besideDisk outer) besideTask.includes ⟨"../.."⟩).result =
      .ok [⟨"../../y.ts"⟩] := by
  obtain ⟨m, hm, hy, hinner, hconfig, hproject⟩ := exists_matcher_beside
  have hbase : ∀ names ∈ ["a/b/y.ts", "lintfix.json", "project.json", "y.ts"],
      (Path.mk ("../../" ++ names)).stripBase? ⟨"../.."⟩ = some ⟨names⟩ := by decide
  simp only [List.forall_mem_cons, List.not_mem_nil, false_imp_iff, implies_true, and_true]
    at hbase
  obtain ⟨hbase₁, hbase₂, hbase₃, hbase₄⟩ := hbase
  have hwalk : (FileSet.allBelow (besideDisk outer) ⟨"../.."⟩).result = .ok [⟨"../../a/b/y.ts"⟩,
      ⟨"../../lintfix.json"⟩, ⟨"../../project.json"⟩, ⟨"../../y.ts"⟩] :=
    congrArg (Except.mapError LintError.walk) (filesBelow_beside outer)
  have hselected : [⟨"../../a/b/y.ts"⟩, ⟨"../../lintfix.json"⟩, ⟨"../../project.json"⟩,
      ⟨"../../y.ts"⟩].filter (fun file : Path =>
        (file.stripBase? ⟨"../.."⟩).any fun relative => m.isMatch relative.text) =
      [⟨"../../y.ts"⟩] := by
    rw [Bool.not_eq_true] at hinner hconfig hproject
    simp only [List.filter_cons, List.filter_nil]
    rw [show (Path.mk "../../a/b/y.ts").stripBase? ⟨"../.."⟩ = _ from hbase₁,
      show (Path.mk "../../lintfix.json").stripBase? ⟨"../.."⟩ = _ from hbase₂,
      show (Path.mk "../../project.json").stripBase? ⟨"../.."⟩ = _ from hbase₃,
      show (Path.mk "../../y.ts").stripBase? ⟨"../.."⟩ = _ from hbase₄]
    simp only [Option.any_some, hinner, hconfig, hproject, hy, Bool.false_eq_true, if_false,
      if_true]
  rw [FileSet.included, if_neg (by decide)]
  simp only [Traced.bind_result, bind_eq_ok_iff, Traced.ofExcept, Traced.note_result,
    Traced.pure_result]
  exact ⟨m, hm, (), trivial, _, hwalk, (), trivial, congrArg Except.ok hselected⟩

theorem resolve_beside (outer : String) :
    (FileSet.resolve (besideDisk outer) besideTask ⟨"../.."⟩).result =
      .ok ⟨[⟨"y.ts"⟩, ⟨"../../y.ts"⟩], some besideProject⟩ := by
  rw [FileSet.resolve]
  simp only [Traced.bind_result, bind_eq_ok_iff, Traced.note_result, Traced.pure_result]
  exact ⟨_, named_beside outer, _, included_beside outer, (), trivial, rfl⟩

/-- The rules for the file outside. -/
def besideRules : Ruleset where
  config := .inheriting { rules := [("letter", .options lettersOptions)] } ⟨"../../lintfix.json"⟩ []
  active := lettersRules.active

theorem readOwn_beside (outer : String) :
    LintConfig.readOwn (besideDisk outer) ⟨"../../lintfix.json"⟩ =
      .ok { rules := [("letter", .options lettersOptions)] } :=
  LintConfig.readOwn_eq_ok_iff.2 ⟨lettersConfig, rfl, by cbv⟩

theorem load_beside (outer : String) :
    (Ruleset.load [] (besideDisk outer) (.nearest ⟨"../../y.ts"⟩)).result = .ok besideRules :=
  have hfound : (ConfigSource.nearest ⟨"../../y.ts"⟩).file? (besideDisk outer) =
      some ⟨"../../lintfix.json"⟩ := rfl
  Ruleset.load_of_own hfound (readOwn_beside outer) rfl rfl (by cbv)

theorem file?_beside (outer : String) :
    (ConfigSource.nearest ⟨"y.ts"⟩).file? (besideDisk outer) = none := rfl

theorem load_beside_inner (outer : String) :
    (Ruleset.load [] (besideDisk outer) (.nearest ⟨"y.ts"⟩)).result = .ok ⟨{}, []⟩ := by
  have hread := (Ruleset.read_eq_ok_iff_of_none (file?_beside outer)).2
    ⟨⟨_, rfl⟩, rfl⟩
  rw [Ruleset.load, Traced.bind_result, bind_eq_ok_iff]
  exact ⟨_, hread, Ruleset.ofConfig_eq_ok_iff.2 ⟨rfl, rfl⟩⟩

theorem writeText_beside (outer : String) :
    (besideDisk outer).writeText ⟨"../../y.ts"⟩ "b" = .ok (besideDisk "b") := rfl

theorem linted?_beside :
    besideRules.linted? [] true ⟨"../../y.ts"⟩ (some "a") =
      some ⟨some "b", [], [letterFound ⟨"../../y.ts"⟩]⟩ := by
  have hcheck : besideRules.check [] ⟨"../../y.ts"⟩ "a" = [letterFound ⟨"../../y.ts"⟩] := by cbv
  have happly : Fixing.apply "a" (besideRules.check [] ⟨"../../y.ts"⟩ "a") =
      some ⟨"b", [letterFound ⟨"../../y.ts"⟩]⟩ := by
    rw [hcheck]
    cbv
  have hleft : besideRules.check [] ⟨"../../y.ts"⟩ "b" = [] := by cbv
  rw [Ruleset.linted?_of_apply rfl happly rfl, hleft]

/-- No rules run for the file inside, and those for the file outside run with the text of the file
    inside. -/
theorem folderTranscript_beside {w : World RuleEngine} {outer : String}
    (hdisk : w.disk = besideDisk outer) (hregistry : w.engine.registry = []) :
    let t := ruleEngine.folderTranscript besideTask ⟨"../.."⟩ (some besideProject) [⟨"y.ts"⟩] w
    t.outcome = .ok () ∧ t.world.engine = w.engine ∧ t.world.disk = w.disk := by
  have hload : (Ruleset.load w.engine.registry w.disk
      (Engine.sourceFor besideTask ⟨"../.."⟩ ⟨"y.ts"⟩)).result = .ok ⟨{}, []⟩ := by
    rw [hregistry, hdisk]
    exact load_beside_inner outer
  have hfile : w.disk.isFile ⟨"y.ts"⟩ := by
    rw [hdisk]
    rfl
  have hlinted : (⟨{}, []⟩ : Ruleset).linted? w.engine.registry w.engine.options.fix ⟨"y.ts"⟩
      (some "a") = some ⟨none, [], []⟩ := by
    have hcheck : (⟨{}, []⟩ : Ruleset).check [] ⟨"y.ts"⟩ "a" = [] := by cbv
    simp [hregistry, Ruleset.linted?, Ruleset.lintedText?, hcheck,
      show (⟨{}, []⟩ : Ruleset).config.excludes ⟨"y.ts"⟩ = false from rfl]
  have htext : textToLint w.disk (some besideProject) ⟨"y.ts"⟩ = .ok (some "a") := rfl
  obtain ⟨houtcome, hengine, hstores⟩ := folderTranscript_of_linted hload hfile htext hlinted
  exact ⟨houtcome, hengine.trans (recorded_nil _), hstores⟩

theorem folderTranscript_beside_outer {w : World RuleEngine} {outer : String}
    (hdisk : w.disk = besideDisk outer) (hregistry : w.engine.registry = [])
    (hfix : w.engine.options.fix) :
    let t := ruleEngine.folderTranscript besideTask ⟨"../.."⟩ (some besideProject)
      [⟨"../../y.ts"⟩] w
    t.outcome = .ok () ∧ t.world.engine = w.engine.recorded [] [letterFound ⟨"../../y.ts"⟩] ∧
      t.world.disk = besideDisk "b" := by
  have hload : (Ruleset.load w.engine.registry w.disk
      (Engine.sourceFor besideTask ⟨"../.."⟩ ⟨"../../y.ts"⟩)).result = .ok besideRules := by
    rw [hregistry, hdisk]
    exact load_beside outer
  have hfile : w.disk.isFile ⟨"../../y.ts"⟩ := by
    rw [hdisk]
    rfl
  have hlinted : besideRules.linted? w.engine.registry w.engine.options.fix ⟨"../../y.ts"⟩
      (some "a") = some ⟨some "b", [], [letterFound ⟨"../../y.ts"⟩]⟩ := by
    rw [hregistry, hfix, linted?_beside]
  have htext : textToLint w.disk (some besideProject) ⟨"../../y.ts"⟩ = .ok (some "a") := rfl
  obtain ⟨houtcome, hengine, hstores⟩ := folderTranscript_of_linted hload hfile htext hlinted
  refine ⟨houtcome, hengine, ?_⟩
  rw [Disk.Stores, hdisk, writeText_beside] at hstores
  exact (Except.ok.inj hstores).symm

theorem lintAll_beside {w : World RuleEngine} {outer : String} (hdisk : w.disk = besideDisk outer)
    (hregistry : w.engine.registry = []) (hfix : w.engine.options.fix) : ∃ w',
    ruleEngine.lintAll besideTask ⟨"../.."⟩ (some besideProject) [⟨"y.ts"⟩, ⟨"../../y.ts"⟩] w =
      (.ok 2, w') ∧ w'.disk = besideDisk "b" ∧
      w'.engine = w.engine.recorded [] [letterFound ⟨"../../y.ts"⟩] := by
  have hruns : folderRuns [⟨"y.ts"⟩, ⟨"../../y.ts"⟩] = [[⟨"y.ts"⟩], [⟨"../../y.ts"⟩]] := by decide
  have hall : ruleEngine.lintAll besideTask ⟨"../.."⟩ (some besideProject)
      [⟨"y.ts"⟩, ⟨"../../y.ts"⟩] w = _ :=
    ruleEngine.lintAll_of_logs besideTask ⟨"../.."⟩ _ ruleEngine.logs_self _ w []
  obtain ⟨houtcome, hengine, hdisk'⟩ := folderTranscript_beside hdisk hregistry
  rw [Engine.transcript, hruns, List.map_cons, List.map_singleton, Transcript.inOrder] at hall
  dsimp only at hall
  rw [Transcript.outcome_andThen houtcome, Transcript.world_andThen houtcome, Transcript.inOrder,
    Transcript.andThen_inOrder_nil] at hall
  generalize (ruleEngine.folderTranscript besideTask ⟨"../.."⟩ (some besideProject)
    [⟨"y.ts"⟩] w).world = middle at *
  obtain ⟨houtcome', hengine', hdone⟩ := folderTranscript_beside_outer (hdisk'.trans hdisk)
    (by rw [hengine, hregistry]) (by rw [hengine, hfix])
  rw [houtcome'] at hall
  exact ⟨_, hall, hdone, by rw [hengine', hengine]⟩

theorem stat_beside (outer : String) :
    (∃ t, (besideDisk outer).stat ⟨"y.ts"⟩ = .ok (["a", "b", "y.ts"], t)) ∧
      ∃ t, (besideDisk outer).stat ⟨"../../y.ts"⟩ = .ok (["y.ts"], t) :=
  ⟨⟨_, rfl⟩, _, rfl⟩

theorem lintsOnce_beside : LintsOnce besideTask ⟨"../.."⟩ (some besideProject)
    [⟨"y.ts"⟩, ⟨"../../y.ts"⟩] (besideDisk "a") where
  isFile := by simp only [List.forall_mem_cons]; exact ⟨rfl, rfl, List.forall_mem_nil _⟩
  apart := by
    obtain ⟨⟨t, hstat⟩, t', hstat'⟩ := stat_beside "a"
    exact List.pairwise_pair.2 fun place => Disk.not_at_of_stat hstat hstat' (by decide)
  text_eq := by simp only [List.forall_mem_cons]; exact ⟨rfl, rfl, List.forall_mem_nil _⟩
  configured := by
    obtain ⟨⟨t, hstat⟩, t', hstat'⟩ := stat_beside "a"
    have hconfig : (besideDisk "a").stat ⟨"../../lintfix.json"⟩ = .ok (["lintfix.json"], _) := rfl
    have hfound : ∀ file ∈ [⟨"y.ts"⟩, ⟨"../../y.ts"⟩], ∀ p,
        (Engine.sourceFor besideTask ⟨"../.."⟩ file).file? (besideDisk "a") = some p →
          p = ⟨"../../lintfix.json"⟩ := by
      simp only [List.forall_mem_cons]
      refine ⟨fun p hp => ?_, fun p hp => (Option.some.inj hp).symm, List.forall_mem_nil _⟩
      cases (file?_beside "a").symm.trans hp
    intro file hfile p hp
    obtain rfl := hfound file hfile p hp
    refine .of_parents (fun own hown => ?_) fun place hat => ?_
    · obtain rfl := Except.ok.inj (hown.symm.trans (readOwn_beside "a"))
      rfl
    · simp only [List.mem_cons, List.not_mem_nil, or_false, exists_eq_or_imp, exists_eq_left,
        not_or]
      exact ⟨Disk.not_at_of_stat hconfig hstat (by decide) hat,
        Disk.not_at_of_stat hconfig hstat' (by decide) hat⟩

theorem run_beside (outer : String) :
    let ran := ruleEngine.run besideTask ⟨"../.."⟩ { disk := besideDisk outer, engine := {} }
    ran.1 = .ok () ∧ ran.2.disk = besideDisk "b" ∧ ran.2.engine.failures = [] ∧
      ran.2.engine.fixes = [letterFound ⟨"../../y.ts"⟩] := by
  obtain ⟨w', hall, hdisk, hengine⟩ := lintAll_beside
    (w := ruleEngine.prepared besideTask ⟨"../.."⟩ { disk := besideDisk outer, engine := {} })
    rfl rfl rfl
  obtain ⟨hdisk', hengine', houtcome⟩ :=
    run_of_lintAll (w := { disk := besideDisk outer, engine := {} }) (resolve_beside outer) hall
  have hfailures : w'.engine.failures = [] := by
    rw [hengine]
    rfl
  have hfixes : w'.engine.fixes = [letterFound ⟨"../../y.ts"⟩] := by
    rw [hengine]
    rfl
  have hformat : Format.ofName? besideTask.format = some .prose := by decide
  dsimp only
  rw [hdisk', hengine', houtcome, outcomeFor, hformat, LintResult.hasErrors, LintResult.errorCount,
    RuleEngine.result, hfailures]
  exact ⟨rfl, hdisk, rfl, hfixes⟩

/-- The project file is neither of the files that are linted. -/
theorem not_at_besideProject {p : Path} (hp : besideTask.compilerConfigPath = some p) :
    ∀ file ∈ [⟨"y.ts"⟩, ⟨"../../y.ts"⟩], ∀ place, (besideDisk "a").At file place →
      ¬(besideDisk "a").At ((Path.mk "../..").join p) place := by
  obtain rfl := Option.some.inj hp
  obtain ⟨⟨t, hstat⟩, t', hstat'⟩ := stat_beside "a"
  have hpath : (Path.mk "../..").join ⟨"project.json"⟩ = ⟨"../../project.json"⟩ := by decide
  have hfile : (besideDisk "a").stat ⟨"../../project.json"⟩ = .ok (["project.json"], _) := rfl
  rw [hpath]
  simp only [List.forall_mem_cons]
  exact ⟨fun _ => Disk.not_at_of_stat hstat hfile (by decide),
    fun _ => Disk.not_at_of_stat hstat' hfile (by decide), List.forall_mem_nil _⟩

theorem runsPatternRules_beside : RunsPatternRules besideTask ⟨"../.."⟩
    [⟨"y.ts"⟩, ⟨"../../y.ts"⟩] { disk := besideDisk "a", engine := {} } := by
  have hruns : folderRuns [⟨"y.ts"⟩, ⟨"../../y.ts"⟩] = [[⟨"y.ts"⟩], [⟨"../../y.ts"⟩]] := by
    decide
  have hactive : ∀ a ∈ besideRules.active, a.pattern.isSome := by
    simp [besideRules, lettersRules, letterRules]
  rw [RunsPatternRules, hruns]
  simp only [List.forall_mem_cons, List.head?_cons, Option.mem_some_iff, forall_eq']
  refine ⟨fun c hc => ?_, fun c hc => ?_, List.forall_mem_nil _⟩
  · obtain rfl := Except.ok.inj (hc.symm.trans (load_beside_inner "a"))
    exact List.forall_mem_nil _
  · obtain rfl := Except.ok.inj (hc.symm.trans (load_beside "a"))
    exact hactive

theorem unmarked_beside : Unmarked { disk := besideDisk "a", engine := {} }
    (ruleEngine.run besideTask ⟨"../.."⟩ { disk := besideDisk "a", engine := {} }).2 := by
  obtain ⟨-, hdisk, -, hfixes⟩ := run_beside "a"
  intro x hx s hs
  rw [fixesSince, hfixes] at hx
  obtain rfl := List.mem_singleton.1 hx
  rw [hdisk] at hs
  have hwritten : (besideDisk "b").readText ⟨"../../y.ts"⟩ = .ok "b" := rfl
  obtain rfl := Except.ok.inj (hs.symm.trans hwritten)
  decide

/-- The text that the project has for the file outside is that of the file inside, as the normal
    form of its path leads there. A second run fixes what the first one has fixed. -/
theorem fixed_again_beside_member :
    let w : World RuleEngine := { disk := besideDisk "a", engine := {} }
    let files : List Path := [⟨"y.ts"⟩, ⟨"../../y.ts"⟩]
    let first := ruleEngine.run besideTask ⟨"../.."⟩ w
    let second := ruleEngine.run besideTask ⟨"../.."⟩ { disk := first.2.disk, engine := {} }
    ((FileSet.resolve w.disk besideTask ⟨"../.."⟩).result = .ok ⟨files, some besideProject⟩ ∧
      AtPlaces files w.disk ∧
      ReadsNone w.disk (ruleEngine.logged.lintAll besideTask ⟨"../.."⟩ (some besideProject) files
        (ruleEngine.prepared besideTask ⟨"../.."⟩ w).logging).2.engine.2 files ∧
      (∀ p, besideTask.compilerConfigPath = some p → ∀ file ∈ files,
        ∀ place, w.disk.At file place → ¬w.disk.At ((Path.mk "../..").join p) place) ∧
      RunsPatternRules besideTask ⟨"../.."⟩ files w ∧
      (ruleEngine.lintAll besideTask ⟨"../.."⟩ (some besideProject) files
        (ruleEngine.prepared besideTask ⟨"../.."⟩ w)).1 = .ok 2 ∧
      (∀ x ∈ first.2.engine.failures, x.fix = none) ∧ Unmarked w first.2) ∧
    w.disk.stat (Path.mk "../../y.ts").normalize ≠ w.disk.stat ⟨"../../y.ts"⟩ ∧
      first.2.engine.fixes = [letterFound ⟨"../../y.ts"⟩] ∧
      second.2.engine.fixes = [letterFound ⟨"../../y.ts"⟩] := by
  dsimp only
  obtain ⟨w', hall, -⟩ := lintAll_beside
    (w := ruleEngine.prepared besideTask ⟨"../.."⟩ { disk := besideDisk "a", engine := {} })
    rfl rfl rfl
  obtain ⟨-, hdisk, hfailures, hfixes⟩ := run_beside "a"
  obtain ⟨-, -, -, hfixes'⟩ := run_beside "b"
  have hread := LintsOnce.readsNone
    (w := ruleEngine.prepared besideTask ⟨"../.."⟩ { disk := besideDisk "a", engine := {} })
    lintsOnce_beside
  have hfixed : ∀ x ∈ (ruleEngine.run besideTask ⟨"../.."⟩
      { disk := besideDisk "a", engine := {} }).2.engine.failures, x.fix = none := by
    rw [hfailures]
    exact List.forall_mem_nil _
  have hnormal : (besideDisk "a").stat (Path.mk "../../y.ts").normalize ≠
      (besideDisk "a").stat ⟨"../../y.ts"⟩ := by
    obtain ⟨⟨t, hstat⟩, t', hstat'⟩ := stat_beside "a"
    rw [show (Path.mk "../../y.ts").normalize = ⟨"y.ts"⟩ by decide, hstat, hstat']
    simp
  rw [← hdisk] at hfixes'
  exact ⟨⟨resolve_beside "a", lintsOnce_beside.places, hread, fun _ => not_at_besideProject,
    runsPatternRules_beside, congrArg Prod.fst hall, hfixed, unmarked_beside⟩, hnormal, hfixes,
    hfixes'⟩

end RuleEngine

end Autofix
