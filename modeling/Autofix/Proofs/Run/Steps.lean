import Autofix.Proofs.Disk.Rewriting
import Autofix.Proofs.Linting
import Autofix.Proofs.Run.Calls

/-!
# Steps of the rule engine

Linting a file leaves it out, or records what is found in it, or writes it once with what has been
fixed, or ends the run and leaves everything as it was (`RuleEngine.LintsTo`). So a run changes no
files but those that it records fixes for (`RuleEngine.FixedSince`), which each file keeps
(`RuleEngine.exists_fixedSince_lintNext`) and then any number of files
(`RuleEngine.exists_fixedSince_lintFrom`).
-/

namespace Autofix

/-- What is fixed has been found, with a fix. -/
theorem Fixing.mem_of_mem_applied {content : String} {ds : List Diagnostic} {fixed : Fixed}
    (h : apply content ds = some fixed) {d : Diagnostic} (hd : d ∈ fixed.applied) :
    d ∈ ds ∧ d.fix.isSome := by
  obtain ⟨text, -, rfl⟩ := Option.map_eq_some_iff.1 h
  rw [List.mem_reverse, List.mem_map] at hd
  obtain ⟨a, ha, rfl⟩ := hd
  obtain ⟨hmem, hfix, -⟩ := mem_candidates.1 ((accept_sublist _).subset ha)
  exact ⟨hmem, Option.isSome_iff_exists.2 ⟨_, hfix⟩⟩

/-- Where a fix changes a text, something has been found with a fix. -/
theorem Fixing.any_of_modified {content : String} {ds : List Diagnostic} {fixed : Fixed}
    (h : apply content ds = some fixed) (hmodified : fixed.modified) : ds.any (·.fix.isSome) := by
  obtain ⟨x, hx⟩ : ∃ x, x ∈ fixed.applied :=
    List.exists_mem_of_ne_nil _ (by simpa [Fixed.modified] using hmodified)
  exact List.any_eq_true.2 ⟨x, mem_of_mem_applied h hx⟩

/-- What is found in a file is found under its path. -/
theorem Ruleset.path_of_mem_check {registry : Registry} {c : Ruleset} {path : Path}
    {content : String} {d : Diagnostic} (h : d ∈ c.check registry path content) :
    d.path = path := by
  obtain ⟨a, -, hd⟩ := mem_check_iff.1 h
  unfold findings at hd
  split at hd
  · obtain ⟨f, -, rfl⟩ := List.mem_map.1 hd
    rfl
  · exact absurd hd List.not_mem_nil

namespace RuleEngine

/-- What linting a file can come to on a disk and with an engine: the outcome, and the disk and the
    engine afterwards. -/
inductive LintsTo (path : Path) (content : String) (c : Ruleset) (disk : Disk)
    (engine : RuleEngine) : Except LintError Unit → Disk → RuleEngine → Prop
  | leftOut (h : c.config.excludes path) : LintsTo path content c disk engine (.ok ()) disk engine
  | kept (h : c.config.excludes path = false) : LintsTo path content c disk engine (.ok ()) disk
      (engine.recorded (c.check engine.registry path content) [])
  | fixed {fixed : Fixed} {d : Disk} (h : c.config.excludes path = false)
      (happly : Fixing.apply content (c.check engine.registry path content) = some fixed)
      (hmodified : fixed.modified) (hwrite : disk.writeText path fixed.content = .ok d) :
      LintsTo path content c disk engine (.ok ()) d
        (engine.recorded (c.check engine.registry path fixed.content) fixed.applied)
  | failed (e : LintError) : LintsTo path content c disk engine (.error e) disk engine

theorem lint_lintsTo (path : Path) (content : String) (c : Ruleset) (w : World RuleEngine) :
    let (outcome, after) := lint path content c w
    LintsTo path content c w.disk w.engine outcome after.disk after.engine := by
  by_cases hexcluded : c.config.excludes path
  · rw [lint, if_pos hexcluded]
    exact .leftOut hexcluded
  rw [Bool.not_eq_true] at hexcluded
  rw [lint_apply hexcluded, lintText_apply]
  dsimp only
  split_ifs
  · cases happly : Fixing.apply content (c.check w.engine.registry path content) with
    | none => exact .failed _
    | some fixed =>
      dsimp only
      split_ifs with hmodified
      · cases hwrite : w.disk.writeText path fixed.content with
        | error e => exact .failed _
        | ok d => exact .fixed hexcluded happly hmodified hwrite
      · exact .kept hexcluded
  · exact .kept hexcluded

/-- A fixed text that can be written is written, and what is found in it then is recorded. -/
theorem lint_of_writeText {path : Path} {content : String} {c : Ruleset} {w : World RuleEngine}
    {fixed : Fixed} {d : Disk} (hkeep : c.config.excludes path = false)
    (hfix : w.engine.options.fix)
    (happly : Fixing.apply content (c.check w.engine.registry path content) = some fixed)
    (hmodified : fixed.modified) (hwrite : w.disk.writeText path fixed.content = .ok d) :
    let linted := lint path content c w
    linted.1 = .ok () ∧ linted.2.disk = d ∧ linted.2.engine =
      w.engine.recorded (c.check w.engine.registry path fixed.content) fixed.applied := by
  have hany := Fixing.any_of_modified happly hmodified
  rw [lint_apply hkeep, lintText_apply]
  simp only [hfix, hany, happly, hmodified, hwrite, Bool.and_self, if_true, and_self]

/-- Without anything to fix, what is found is recorded and nothing is written. -/
theorem lint_of_no_fix {path : Path} {content : String} {c : Ruleset} {w : World RuleEngine}
    (hkeep : c.config.excludes path = false)
    (hnone : (c.check w.engine.registry path content).any (·.fix.isSome) = false) :
    let linted := lint path content c w
    linted.1 = .ok () ∧ linted.2.disk = w.disk ∧
      linted.2.engine = w.engine.recorded (c.check w.engine.registry path content) [] := by
  rw [lint_apply hkeep, lintText_apply]
  simp only [hnone, Bool.and_false, Bool.false_eq_true, if_false, and_self]

/-! ### What has been changed -/

/-- Since a world, which a run starts from, these fixes have been recorded, and no files have been
    changed but those that they are for. -/
structure FixedSince (start : World RuleEngine) (disk : Disk) (engine : RuleEngine)
    (fixes : List Diagnostic) : Prop where
  fixes_eq : engine.fixes = start.engine.fixes ++ fixes
  registry_eq : engine.registry = start.engine.registry
  rewrites : start.disk.Rewrites (fun place => ∃ x ∈ fixes, start.disk.At x.path place) disk

variable {start w : World RuleEngine} {path file : Path} {content : String} {c : Ruleset}
  {outcome : Except LintError Unit} {disk d : Disk} {engine after : RuleEngine}
  {fixes : List Diagnostic}

theorem FixedSince.refl (w : World RuleEngine) : FixedSince w w.disk w.engine [] :=
  ⟨(List.append_nil _).symm, rfl, .refl _⟩

/-- Linting a file that exists records fixes for no other file, and changes no other one. -/
theorem FixedSince.lint (h : FixedSince start disk engine fixes) (hfile : start.disk.isFile file)
    (hlint : LintsTo file content c disk engine outcome d after) :
    ∃ more, FixedSince start d after (fixes ++ more) ∧ ∀ x ∈ more, x.path = file := by
  cases hlint with
  | leftOut => exact ⟨[], by rwa [List.append_nil], List.forall_mem_nil _⟩
  | failed => exact ⟨[], by rwa [List.append_nil], List.forall_mem_nil _⟩
  | kept =>
    refine ⟨[], ⟨?_, h.registry_eq, ?_⟩, List.forall_mem_nil _⟩
    · rw [recorded, h.fixes_eq, List.append_assoc]
    · rw [List.append_nil]
      exact h.rewrites
  | @fixed fixed _ _ happly hmodified hwrite =>
    have hpath : ∀ x ∈ fixed.applied, x.path = file := fun x hx =>
      Ruleset.path_of_mem_check (Fixing.mem_of_mem_applied happly hx).1
    refine ⟨fixed.applied, ⟨?_, h.registry_eq, ?_⟩, hpath⟩
    · rw [recorded, h.fixes_eq, List.append_assoc]
    · have hfile' : disk.isFile file := h.rewrites.isFile_eq file ▸ hfile
      obtain ⟨place, hat, hrewrites⟩ := Disk.rewrites_of_writeText hfile' hwrite
      -- A changed text has had a fix applied to it, and that is recorded for the file.
      obtain ⟨x, hx⟩ : ∃ x, x ∈ fixed.applied :=
        List.exists_mem_of_ne_nil _ (by simpa [Fixed.modified] using hmodified)
      refine (h.rewrites.mono ?_).trans (hrewrites.mono ?_)
      · rintro _ ⟨x, hx, hat⟩
        exact ⟨x, List.mem_append_left _ hx, hat⟩
      · rintro _ rfl
        exact ⟨x, List.mem_append_right _ hx, hpath x hx ▸ h.rewrites.at_iff.1 hat⟩

/-! ### From file to file -/

variable {options : TaskOptions} {root : Path} {project : Option Project}
  {current : CurrentConfig Ruleset}

/-- Loading a configuration changes nothing but the trace. -/
theorem load_apply (source : ConfigSource) (w : World RuleEngine) :
    ruleEngine.load source w =
      let loaded := Ruleset.load w.engine.registry w.disk source
      (loaded.result, { w with trace := w.trace ++ loaded.trace }) := rfl

/-- The files of a folder are linted under the configuration that is loaded for the first one. -/
theorem folderTranscript_of_load (project : Option Project) (rest : List Path)
    (hload : (Ruleset.load w.engine.registry w.disk
      (Engine.sourceFor options root file)).result = .ok c) :
    ∃ told, ruleEngine.folderTranscript options root project (file :: rest) w =
      Transcript.andThen ⟨[.load (Engine.sourceFor options root file)], .ok (),
        { w with trace := told }⟩
        (.inOrder ((file :: rest).map (ruleEngine.fileTranscript project c))) := by
  rw [Engine.folderTranscript, load_apply]
  dsimp only [World.noted]
  rw [hload]
  exact ⟨_, rfl⟩

theorem folderTranscript_of_load_error (project : Option Project) {rest : List Path}
    {e : LintError} (hload : (Ruleset.load w.engine.registry w.disk
      (Engine.sourceFor options root file)).result = .error e) :
    ∃ told, ruleEngine.folderTranscript options root project (file :: rest) w =
      ⟨[.load (Engine.sourceFor options root file)], .error e, { w with trace := told }⟩ := by
  rw [Engine.folderTranscript, load_apply]
  dsimp only [World.noted]
  rw [hload]
  exact ⟨_, rfl⟩

/-- Where linting the files of a folder comes to its end, a configuration has been loaded for the
    first of them. -/
theorem exists_load_of_folderTranscript {rest : List Path}
    (hok : (ruleEngine.folderTranscript options root project (file :: rest) w).outcome = .ok ()) :
    ∃ c told, (Ruleset.load w.engine.registry w.disk
        (Engine.sourceFor options root file)).result = .ok c ∧
      ruleEngine.folderTranscript options root project (file :: rest) w =
        Transcript.andThen ⟨[.load (Engine.sourceFor options root file)], .ok (),
          { w with trace := told }⟩
          (.inOrder ((file :: rest).map (ruleEngine.fileTranscript project c))) := by
  cases hload : (Ruleset.load w.engine.registry w.disk
      (Engine.sourceFor options root file)).result with
  | error e =>
    obtain ⟨told, hfolder⟩ := folderTranscript_of_load_error project hload
    rw [hfolder] at hok
    cases hok
  | ok c =>
    obtain ⟨told, hfolder⟩ := folderTranscript_of_load project rest hload
    exact ⟨c, told, rfl, hfolder⟩

/-- Files in one folder are linted one after the other under the configuration that is loaded for
    the first one. -/
theorem lintAll_of_load (project : Option Project) {rest : List Path}
    (hruns : folderRuns (file :: rest) = [file :: rest])
    (hload : (Ruleset.load w.engine.registry w.disk
      (Engine.sourceFor options root file)).result = .ok c) :
    ∃ told,
      let t := Transcript.inOrder ((file :: rest).map (ruleEngine.fileTranscript project c))
        { w with trace := told }
      ruleEngine.lintAll options root project (file :: rest) w =
        (t.outcome.map fun _ => 1, t.world) := by
  obtain ⟨told, hfolder⟩ := folderTranscript_of_load project rest hload
  have hall : ruleEngine.lintAll options root project (file :: rest) w = _ :=
    ruleEngine.lintAll_of_logs options root project ruleEngine.logs_self _ w []
  refine ⟨told, ?_⟩
  rw [hall, Engine.transcript, hruns, List.map_singleton, Transcript.inOrder,
    Transcript.andThen_inOrder_nil, hfolder]
  simp only [Transcript.andThen]
  rfl

/-- Where no configuration can be loaded for the first file of a folder, the run ends. -/
theorem lintAll_of_load_error (project : Option Project) {rest : List Path} {e : LintError}
    (hruns : folderRuns (file :: rest) = [file :: rest])
    (hload : (Ruleset.load w.engine.registry w.disk
      (Engine.sourceFor options root file)).result = .error e) :
    (ruleEngine.lintAll options root project (file :: rest) w).1 = .error e := by
  obtain ⟨told, hfolder⟩ := folderTranscript_of_load_error project hload
  have hall : ruleEngine.lintAll options root project (file :: rest) w = _ :=
    ruleEngine.lintAll_of_logs options root project ruleEngine.logs_self _ w []
  rw [hall, Engine.transcript, hruns, List.map_singleton, Transcript.inOrder,
    Transcript.andThen_inOrder_nil, hfolder]
  rfl

/-- A file is linted with its text, if it has one, or nothing happens but remarks. -/
theorem lintFile_lintsTo (project : Option Project) (c : Ruleset) (file : Path)
    (w : World RuleEngine) :
    let (outcome, after) := ruleEngine.lintFile project c file w
    (after.disk = w.disk ∧ after.engine = w.engine) ∨
      ∃ text, textToLint w.disk project file = .ok (some text) ∧
        LintsTo file text c w.disk w.engine outcome after.disk after.engine := by
  have htranscript : ruleEngine.lintFile project c file w = _ :=
    Engine.lintFile_of_logs ruleEngine.logs_self c file w []
  rw [htranscript, Engine.fileTranscript]
  cases htext : textToLint w.disk project file with
  | error e => exact .inl ⟨rfl, rfl⟩
  | ok text =>
    cases text with
    | none => exact .inl ⟨rfl, rfl⟩
    | some text => exact .inr ⟨text, rfl, lint_lintsTo file text c (w.noted _)⟩

/-- The next file is linted under some rules, unless these cannot be loaded. Which ones they are
    does not depend on the project. -/
theorem lintNext_cases (options : TaskOptions) (root : Path) (current : CurrentConfig Ruleset)
    (file : Path) (w : World RuleEngine) :
    (∃ e told, ∀ project, ruleEngine.lintNext options root project current file w =
      (.error e, { w with trace := told })) ∨
    ∃ c next told, ∀ project, ruleEngine.lintNext options root project current file w =
      (ruleEngine.lintFile project c file >>= fun _ => pure next) { w with trace := told } := by
  have hlift : ∀ (x : Run RuleEngine Ruleset) w,
      (ExceptT.lift x.run : Run RuleEngine (Except LintError Ruleset)) w =
        (.ok (x w).1, (x w).2) := fun _ _ => rfl
  simp only [Engine.lintNext, CurrentConfig.forFile, Engine.configFor_some]
  -- The rules are kept from a file of the same folder, or loaded for this one.
  cases current.get? file with
  | some c => exact .inr ⟨c, current, w.trace, fun _ => rfl⟩
  | none =>
    simp only [Run.bind_apply (β := CurrentConfig Ruleset) w, Run.bind_apply, Run.note_apply,
      Run.pure_apply, hlift, load_apply]
    generalize Ruleset.load _ _ _ = loaded
    obtain ⟨e | c, told⟩ := loaded
    · exact .inl ⟨e, _, fun _ => rfl⟩
    · exact .inr ⟨c, _, _, fun _ => rfl⟩

/-- Of the project only the text of the file matters for linting it. -/
theorem lintNext_congr {project' : Option Project}
    (h : textToLint w.disk project file = textToLint w.disk project' file) :
    ruleEngine.lintNext options root project current file w =
      ruleEngine.lintNext options root project' current file w := by
  rcases lintNext_cases options root current file w with ⟨e, told, hnext⟩ | ⟨c, next, told, hnext⟩
  · rw [hnext, hnext]
  · have hfile : ruleEngine.lintFile project c file { w with trace := told } =
        ruleEngine.lintFile project' c file { w with trace := told } := by
      simp only [Engine.lintFile, Run.bind_apply, Run.disk_apply, Run.ofExcept_apply, h]
    rw [hnext, hnext, Run.bind_apply, Run.bind_apply, hfile]

section

variable (options : TaskOptions) (root : Path) (project : Option Project)
  (current : CurrentConfig Ruleset)

theorem exists_fixedSince_lintNext (h : FixedSince start w.disk w.engine fixes)
    (hfile : start.disk.isFile file) :
    let (_, after) := ruleEngine.lintNext options root project current file w
    ∃ more, FixedSince start after.disk after.engine (fixes ++ more) ∧
      ∀ x ∈ more, x.path = file := by
  have hsame : ∃ more, FixedSince start w.disk w.engine (fixes ++ more) ∧
      ∀ x ∈ more, x.path = file := ⟨[], by rwa [List.append_nil], List.forall_mem_nil _⟩
  rcases lintNext_cases options root current file w with ⟨e, told, hnext⟩ | ⟨c, next, told, hnext⟩
  · rw [hnext]
    exact hsame
  · have hlints := lintFile_lintsTo project c file { w with trace := told }
    rw [hnext, Run.bind_apply]
    generalize ruleEngine.lintFile project c file { w with trace := told } = linted at hlints ⊢
    obtain ⟨outcome, w'⟩ := linted
    have hmore : ∃ more, FixedSince start w'.disk w'.engine (fixes ++ more) ∧
        ∀ x ∈ more, x.path = file := by
      rcases hlints with ⟨hdisk, hengine⟩ | ⟨text, -, hlints⟩
      · rw [hdisk, hengine]
        exact hsame
      · exact h.lint hfile hlints
    cases outcome <;> exact hmore

/-- Linting files that exist changes no files but those that it records fixes for. -/
theorem exists_fixedSince_lintFrom {files : List Path} (h : FixedSince start w.disk w.engine fixes)
    (hfiles : ∀ file ∈ files, start.disk.isFile file) :
    let (_, after) := ruleEngine.lintFrom options root project current files w
    ∃ more, FixedSince start after.disk after.engine (fixes ++ more) ∧
      ∀ x ∈ more, x.path ∈ files := by
  induction files generalizing w current fixes with
  | nil => exact ⟨[], by rwa [List.append_nil], List.forall_mem_nil _⟩
  | cons file files ih =>
    rw [List.forall_mem_cons] at hfiles
    have hnext := exists_fixedSince_lintNext options root project current h hfiles.1
    rw [Engine.lintFrom_cons_apply]
    generalize ruleEngine.lintNext options root project current file w = next at hnext ⊢
    rcases next with ⟨e | current, w'⟩
    · obtain ⟨more, hsince, hpath⟩ := hnext
      exact ⟨more, hsince, fun x hx => hpath x hx ▸ List.mem_cons_self⟩
    · obtain ⟨more, hsince, hpath⟩ := hnext
      obtain ⟨more', hsince', hpath'⟩ := ih current hsince hfiles.2
      refine ⟨more ++ more', by rwa [← List.append_assoc], fun x hx => ?_⟩
      rcases List.mem_append.1 hx with hx | hx
      · exact hpath x hx ▸ List.mem_cons_self
      · exact List.mem_cons_of_mem _ (hpath' x hx)

end

end RuleEngine

end Autofix
