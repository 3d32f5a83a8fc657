import Autofix.Proofs.Path.Spelled
import Autofix.Proofs.Run.Agreement
import Autofix.Proofs.Run.Remaining

/-!
# Runs that load every configuration afresh

Keeping the configuration of a folder changes nothing about a run of the rule engine but how often
configurations are loaded: the loop that loads one for every file (`Engine.lintEach`) comes to the
same outcome, makes the same calls for linting, under configurations that are alike, finds and fixes
the same, and leaves the same disk (`RuleEngine.lintAll_eq_lintEach`). This holds for files that
exist, if none of them is a configuration that the run reads. The folder of files that follow each
other has to be written in the same way for all of them, unless all paths that are looked up are
short (`RuleEngine.lintEach_fails_on_long_path`).
-/

namespace Autofix

namespace Engine

variable {σ τ κ : Type} (engine : Engine σ κ) (options : TaskOptions) (root : Path)
  (project : Option Project)

/-- Lints files in order, each under a configuration that is loaded for it. -/
def lintEach : List Path → Run σ Unit
  | [] => return
  | file :: rest => do
    let config ← engine.configFor options root (some file)
    engine.lintFile project config file
    lintEach rest

/-- The configuration of a file is loaded, and the file is linted under it. -/
def freshTranscript (file : Path) (w : World σ) : Transcript σ κ :=
  let source := sourceFor options root file
  match engine.load source w with
  | (.error e, w) => ⟨[.load source], .error e, w⟩
  | (.ok config, w) =>
    Transcript.andThen ⟨[.load source], .ok (), w⟩ (engine.fileTranscript project config file)

variable {engine options root project} {logging : Engine τ κ}
  {embed : World σ → List (Call κ) → World τ}

theorem lintEach_of_logs (h : Logs engine logging embed) (files : List Path) (w : World σ)
    (calls : List (Call κ)) : logging.lintEach options root project files (embed w calls) =
      let t := Transcript.inOrder (files.map (engine.freshTranscript options root project)) w
      (t.outcome, embed t.world (calls ++ t.calls)) := by
  induction files generalizing w calls with
  | nil => simp [lintEach, Transcript.inOrder]
  | cons file files ih =>
    simp only [lintEach, Run.bind_apply, configFor_some, h.load_eq, List.map_cons,
      Transcript.inOrder, freshTranscript]
    rcases engine.load (sourceFor options root file) w with ⟨e | config, w⟩
    · rfl
    · simp only [Prod.map, id, lintFile_of_logs h, Transcript.andThen]
      cases (engine.fileTranscript project config file w).outcome with
      | error e => simp
      | ok => simp [ih]

end Engine

/-- The world at the start of a run whose calls are kept. -/
def World.logging {σ κ : Type} (w : World σ) : World (σ × List (Call κ)) :=
  w.withEngine (w.engine, [])

namespace RuleEngine

variable {start w w' : World RuleEngine} {places : Disk.Place → Prop} {c c' : Ruleset} {file : Path}
  {options : TaskOptions} {root : Path}

/-! ### Files in one folder -/

section

variable (project : Option Project) {e : LintError}

theorem freshTranscript_of_load (hload : (Ruleset.load w.engine.registry w.disk
      (Engine.sourceFor options root file)).result = .ok c) :
    ∃ told, ruleEngine.freshTranscript options root project file w =
      Transcript.andThen ⟨[.load (Engine.sourceFor options root file)], .ok (),
        { w with trace := told }⟩ (ruleEngine.fileTranscript project c file) := by
  rw [Engine.freshTranscript, load_apply]
  dsimp only
  rw [hload]
  exact ⟨_, rfl⟩

theorem freshTranscript_of_load_error (hload : (Ruleset.load w.engine.registry w.disk
      (Engine.sourceFor options root file)).result = .error e) :
    ∃ told, ruleEngine.freshTranscript options root project file w =
      ⟨[.load (Engine.sourceFor options root file)], .error e, { w with trace := told }⟩ := by
  rw [Engine.freshTranscript, load_apply]
  dsimp only
  rw [hload]
  exact ⟨_, rfl⟩

end

/-- A file is linted under rules that have been kept as under those that are loaded for it, if these
    are alike. -/
theorem freshTranscript_agree (project : Option Project) (hfile : start.disk.isFile file)
    (hplaces : ∀ place, start.disk.At file place → places place) (hsince : Since start places w)
    (h : w.Agrees w') (halike : c.Alike c')
    (hload : (Ruleset.load start.engine.registry w.disk
      (Engine.sourceFor options root file)).result = .ok c') :
    Agree start places (ruleEngine.fileTranscript project c file w)
      (ruleEngine.freshTranscript options root project file w') := by
  rw [← hsince.registry_eq, h.engine_eq, h.disk_eq] at hload
  obtain ⟨told, hfresh⟩ := freshTranscript_of_load project hload
  have htold : w.Agrees { w' with trace := told } := ⟨h.disk_eq, h.engine_eq, h.messages_eq⟩
  obtain ⟨houtcome, hworld, hlints, hsince'⟩ :=
    fileTranscript_agree project hfile hplaces hsince htold halike
  rw [hfresh]
  exact ⟨houtcome, hworld, hlints, hsince'⟩

/-- Files are linted under rules that have been kept as under those that are loaded for each of
    them, if these are alike. -/
theorem inOrder_agree (project : Option Project) {files : List Path}
    (hfiles : ∀ file ∈ files, start.disk.isFile file)
    (hplaces : ∀ file ∈ files, ∀ place, start.disk.At file place → places place)
    (hloads : ∀ file ∈ files, ∀ d, start.disk.Rewrites places d → ∃ c',
      (Ruleset.load start.engine.registry d (Engine.sourceFor options root file)).result = .ok c' ∧
        c.Alike c')
    (hsince : Since start places w) (h : w.Agrees w') :
    Agree start places (.inOrder (files.map (ruleEngine.fileTranscript project c)) w)
      (.inOrder (files.map (ruleEngine.freshTranscript options root project)) w') := by
  -- By induction on the files. `Since` is kept, so that nothing is loaded from what was written.
  induction files generalizing w w' with
  | nil => exact ⟨rfl, h, .nil, hsince⟩
  | cons file files ih =>
    rw [List.forall_mem_cons] at hfiles hplaces hloads
    obtain ⟨c', hload, halike⟩ := hloads.1 _ hsince.rewrites
    have hfirst := freshTranscript_agree project hfiles.1 hplaces.1 hsince h halike hload
    rw [List.map_cons, List.map_cons, Transcript.inOrder, Transcript.inOrder]
    exact hfirst.andThen fun _ => ih hfiles.2 hplaces.2 hloads.2 hfirst.since hfirst.world

/-- Files that go together are linted under rules that are loaded for the first of them as under
    those that are loaded for each of them. -/
theorem folderTranscript_agree (project : Option Project) {run : List Path}
    (hfiles : ∀ file ∈ run, start.disk.isFile file)
    (hplaces : ∀ file ∈ run, ∀ place, start.disk.At file place → places place)
    (htogether : ∀ first ∈ run.head?, ∀ file ∈ run,
      (Engine.sourceFor options root first).Together start.disk
        (Engine.sourceFor options root file))
    (hapart : ∀ source,
      .load source ∈ (ruleEngine.folderTranscript options root project run w).calls →
      ∀ p, source.file? start.disk = some p → LintConfig.Apart start.disk places [] p)
    (hsince : Since start places w) (h : w.Agrees w') :
    Agree start places (ruleEngine.folderTranscript options root project run w)
      (.inOrder (run.map (ruleEngine.freshTranscript options root project)) w') := by
  cases run with
  | nil => exact ⟨rfl, h, .nil, hsince⟩
  | cons first rest =>
    have htold : ∀ told, { w with trace := told }.Agrees w' := fun _ =>
      ⟨h.disk_eq, h.engine_eq, h.messages_eq⟩
    have hsinceTold : ∀ told, Since start places { w with trace := told } := fun _ =>
      ⟨hsince.rewrites, hsince.registry_eq⟩
    cases hload : (Ruleset.load w.engine.registry w.disk
        (Engine.sourceFor options root first)).result with
    | error e =>
      -- Loading for the first file fails in both runs, and ends them.
      obtain ⟨told, hkept⟩ := folderTranscript_of_load_error project hload
      rw [h.engine_eq, h.disk_eq] at hload
      obtain ⟨told', hfresh⟩ := freshTranscript_of_load_error project hload
      rw [hkept, List.map_cons, Transcript.inOrder, hfresh]
      exact ⟨rfl, ⟨h.disk_eq, h.engine_eq, h.messages_eq⟩, .nil, hsinceTold told⟩
    | ok c =>
      obtain ⟨told, hkept⟩ := folderTranscript_of_load project _ hload
      rw [hkept] at hapart ⊢
      -- For each file, whatever has been written by then, rules that are alike are loaded.
      have hloads : ∀ file ∈ first :: rest, ∀ d, start.disk.Rewrites places d → ∃ c',
          (Ruleset.load start.engine.registry d
            (Engine.sourceFor options root file)).result = .ok c' ∧ c.Alike c' :=
        fun file hmem d hd => Ruleset.exists_load_alike hsince.rewrites hd
          (hapart _ List.mem_cons_self) (htogether first rfl file hmem)
          (hsince.registry_eq ▸ hload)
      obtain ⟨houtcome, hworld, hlints, hsince'⟩ :=
        inOrder_agree project hfiles hplaces hloads (hsinceTold told) (htold told)
      exact ⟨houtcome, hworld, hlints, hsince'⟩

/-! ### All files -/

/-- Files are linted under rules that are loaded once for those that go together as under rules that
    are loaded for each of them. -/
theorem folderTranscripts_agree (project : Option Project) {runs : List (List Path)}
    (hfiles : ∀ run ∈ runs, ∀ file ∈ run, start.disk.isFile file)
    (hplaces : ∀ run ∈ runs, ∀ file ∈ run, ∀ place, start.disk.At file place → places place)
    (htogether : ∀ run ∈ runs, ∀ first ∈ run.head?, ∀ file ∈ run,
      (Engine.sourceFor options root first).Together start.disk
        (Engine.sourceFor options root file))
    (hapart : ∀ source, .load source ∈ (Transcript.inOrder
        (runs.map (ruleEngine.folderTranscript options root project)) w).calls →
      ∀ p, source.file? start.disk = some p → LintConfig.Apart start.disk places [] p)
    (hsince : Since start places w) (h : w.Agrees w') :
    Agree start places (.inOrder (runs.map (ruleEngine.folderTranscript options root project)) w)
      (.inOrder (runs.flatten.map (ruleEngine.freshTranscript options root project)) w') := by
  induction runs generalizing w w' with
  | nil => exact ⟨rfl, h, .nil, hsince⟩
  | cons run runs ih =>
    rw [List.forall_mem_cons] at hfiles hplaces htogether
    rw [List.map_cons, Transcript.inOrder] at hapart ⊢
    rw [List.flatten_cons, List.map_append, Transcript.inOrder_append]
    have hfirst := folderTranscript_agree project hfiles.1 hplaces.1 htogether.1
      (fun source hmem => hapart source (Transcript.mem_calls_andThen hmem)) hsince h
    -- What is loaded for the later folders is among the calls only if the first one succeeds.
    refine hfirst.andThen fun hok => ih hfiles.2 hplaces.2 htogether.2 (fun source hmem => ?_)
      hfirst.since hfirst.world
    exact hapart source (Transcript.mem_calls_andThen_of_ok hok hmem)

/-- None of the files is read as a configuration, or as what one extends, when the calls are
    made. -/
def ReadsNone (d : Disk) (calls : List (Call Ruleset)) (files : List Path) : Prop :=
  ∀ source, .load source ∈ calls → ∀ p q, source.file? d = some p → LintConfig.Reads d [] p q →
    ∀ file ∈ files, ∀ place, d.At file place → ¬d.At q place

/-- Files in one folder have sources that go together, if they exist and the folder is written in
    the same way for both or all paths that are looked up are short. -/
theorem together_of_sameFolder {d : Disk} {other : Path} (hfile : d.isFile file)
    (hother : d.isFile other) (hsame : SameFolder file other)
    (hspelled : file.folder = other.folder ∨ (Engine.sourceFor options root file).LooksShort d ∧
      (Engine.sourceFor options root other).LooksShort d) :
    (Engine.sourceFor options root file).Together d (Engine.sourceFor options root other) := by
  -- A source that the options give is the same for all files.
  cases hconfig : options.lintConfigPath with
  | some path => exact .inl (by simp only [Engine.sourceFor, hconfig])
  | none =>
    cases hrules : options.lintRulesPath with
    | some path => exact .inl (by simp only [Engine.sourceFor, hconfig, hrules])
    | none =>
      have hsource : ∀ file, Engine.sourceFor options root file = .nearest file := fun _ => by
        simp only [Engine.sourceFor, hconfig, hrules]
      rw [hsource, hsource] at hspelled ⊢
      exact .inr ⟨file, other, rfl, rfl, hfile, hother, sameFolder_iff.1 hsame, hspelled⟩

/-- Files that follow each other in one folder have sources that go together. -/
theorem together_of_mem {files run : List Path} {d : Disk}
    (hfiles : ∀ file ∈ files, d.isFile file)
    (hspelled : ∀ run ∈ folderRuns files, ∀ file ∈ run, ∀ other ∈ run,
      file.folder = other.folder ∨ (Engine.sourceFor options root other).LooksShort d)
    (hrun : run ∈ folderRuns files) {first : Path} (hfirst : first ∈ run) (hfile : file ∈ run) :
    (Engine.sourceFor options root first).Together d (Engine.sourceFor options root file) := by
  obtain ⟨hflatten, -, hsame, -⟩ := folderRuns_eq_iff.1 (rfl : folderRuns files = _)
  have hmem : ∀ other ∈ run, other ∈ files := fun other hother => by
    rw [hflatten]
    exact List.mem_flatten_of_mem hrun hother
  refine together_of_sameFolder (hfiles _ (hmem _ hfirst)) (hfiles _ (hmem _ hfile))
    (hsame run hrun first hfirst file hfile) ?_
  rcases hspelled run hrun first hfirst file hfile with heq | hshort
  · exact .inl heq
  · exact (hspelled run hrun file hfile first hfirst).imp Eq.symm fun hshort' => ⟨hshort', hshort⟩

/-! ### What a run comes to -/

theorem lintAll_outcome (options : TaskOptions) (root : Path) (project : Option Project)
    (files : List Path) (w : World RuleEngine) :
    (ruleEngine.logged.lintAll options root project files w.logging).1 =
      (ruleEngine.transcript options root project files w).outcome.map
        fun _ => (folderRuns files).length :=
  congrArg Prod.fst <|
    ruleEngine.lintAll_of_logs options root project ruleEngine.logs_logged files w []

theorem lintEach_outcome (options : TaskOptions) (root : Path) (project : Option Project)
    (files : List Path) (w : World RuleEngine) :
    (ruleEngine.logged.lintEach options root project files w.logging).1 = (Transcript.inOrder
      (files.map (ruleEngine.freshTranscript options root project)) w).outcome :=
  congrArg Prod.fst <| Engine.lintEach_of_logs ruleEngine.logs_logged files w []

theorem exists_of_load_mem {options : TaskOptions} {root : Path} {project : Option Project}
    {files : List Path} {w : World RuleEngine} {source : ConfigSource}
    (h : .load source ∈
      (ruleEngine.logged.lintAll options root project files w.logging).2.engine.2) :
    ∃ file ∈ files, source = Engine.sourceFor options root file := by
  have hkept : ruleEngine.logged.lintAll options root project files w.logging = _ :=
    ruleEngine.lintAll_of_logs options root project ruleEngine.logs_logged files w []
  rw [hkept] at h
  exact ruleEngine.exists_of_load_mem options root project h

/-- A run that reads none of its files for the configuration of a file reads none of them. -/
theorem LintsOnce.readsNone (h : LintsOnce options root project files w.disk) :
    ReadsNone w.disk
      (ruleEngine.logged.lintAll options root project files w.logging).2.engine.2 files := by
  rintro source hsource p q hp hq file hfile place hat hat'
  obtain ⟨other, hother, rfl⟩ := exists_of_load_mem hsource
  exact h.configured other hother p hp q hq place hat' ⟨file, hfile, hat⟩

/-! ### Without rules -/

section

variable {project : Option Project} {c : Ruleset} {path : Path} {content : String}
  {w : World RuleEngine}

theorem lint_of_active_nil (h : c.active = []) : (lint path content c w).1 = .ok () ∧
    (lint path content c w).2.disk = w.disk ∧
    (lint path content c w).2.engine.registry = w.engine.registry := by
  by_cases hexcluded : c.config.excludes path
  · rw [lint, if_pos hexcluded]
    exact ⟨rfl, rfl, rfl⟩
  · have hcheck : c.check w.engine.registry path content = [] := by simp [Ruleset.check, h]
    rw [lint_apply (Bool.not_eq_true _ ▸ hexcluded), lintText_apply, hcheck]
    simp [recorded]

/-- Without rules, linting succeeds for a file that can be read, and leaves the disk. -/
theorem fileTranscript_of_active_nil (h : c.active = []) {text : Option String}
    (htext : textToLint w.disk project path = .ok text) :
    let t := ruleEngine.fileTranscript project c path w
    t.outcome = .ok () ∧ t.world.disk = w.disk ∧
      t.world.engine.registry = w.engine.registry := by
  rw [Engine.fileTranscript, htext]
  cases text with
  | none => exact ⟨rfl, rfl, rfl⟩
  | some text => exact lint_of_active_nil h

theorem inOrder_of_active_nil {files : List Path} (h : c.active = [])
    (hread : ∀ file ∈ files, ∃ text, textToLint w.disk project file = .ok text) :
    (Transcript.inOrder (files.map (ruleEngine.fileTranscript project c)) w).outcome = .ok () := by
  induction files generalizing w with
  | nil => rfl
  | cons file files ih =>
    rw [List.forall_mem_cons] at hread
    obtain ⟨text, htext⟩ := hread.1
    obtain ⟨houtcome, hdisk, -⟩ := fileTranscript_of_active_nil h htext
    rw [List.map_cons, Transcript.inOrder, Transcript.andThen, houtcome]
    exact ih (hdisk ▸ hread.2)

variable {options : TaskOptions} {root : Path}

/-- A folder in which no rules run. -/
theorem folderTranscript_of_active_nil {rest : List Path} (h : c.active = [])
    (hload : (Ruleset.load w.engine.registry w.disk
      (Engine.sourceFor options root path)).result = .ok c)
    (hread : ∀ file ∈ path :: rest, ∃ text, textToLint w.disk project file = .ok text) :
    (ruleEngine.folderTranscript options root project (path :: rest) w).outcome = .ok () := by
  obtain ⟨told, hfolder⟩ := folderTranscript_of_load project _ hload
  rw [hfolder, Transcript.outcome_andThen rfl]
  exact inOrder_of_active_nil h hread

/-- Where no rules run for one file, and none can be loaded for the next one. -/
theorem freshTranscripts_of_load_error {next : Path} {e : LintError} (h : c.active = [])
    (hload : (Ruleset.load w.engine.registry w.disk
      (Engine.sourceFor options root path)).result = .ok c)
    (hread : ∃ text, textToLint w.disk project path = .ok text)
    (herror : (Ruleset.load w.engine.registry w.disk
      (Engine.sourceFor options root next)).result = .error e) :
    (Transcript.inOrder ([path, next].map (ruleEngine.freshTranscript options root project))
      w).outcome = .error e := by
  obtain ⟨text, htext⟩ := hread
  obtain ⟨told, hfirst⟩ := freshTranscript_of_load project hload
  obtain ⟨houtcome, hdisk, hregistry⟩ :=
    fileTranscript_of_active_nil (w := { w with trace := told }) h htext
  obtain ⟨told', hfails⟩ := freshTranscript_of_load_error project
    (w := (ruleEngine.fileTranscript project c path { w with trace := told }).world)
    (by rw [hdisk, hregistry]; exact herror)
  rw [List.map_cons, List.map_singleton, Transcript.inOrder, hfirst,
    Transcript.outcome_andThen ((Transcript.outcome_andThen rfl).trans houtcome),
    Transcript.inOrder]
  exact congrArg (fun t => (Transcript.andThen t (.inOrder [])).outcome) hfails

end

/-! ### Two files in a folder -/

/-- A world with two files in a folder, a configuration beside them, and one above that cannot be
    read. -/
def nested : World RuleEngine where
  disk := ⟨.folder [("a", .folder [("lintfix.json", .file (.text "")), ("x.ts", .file (.text "x")),
    ("y.ts", .file (.text ""))]), ("lintfix.json", .file (.text "["))], [], none⟩
  engine := {}

/-- The second file of `nested`, with more separators in front of its path than needed. -/
def secondFile (more : ℕ) : Path := .spelled more ([['a']] ++ [['y', '.', 't', 's']])

theorem areNames_nested : Path.AreNames ([['a']] ++ [['y', '.', 't', 's']]) := by
  unfold Path.AreNames
  decide

/-- However it is written, the second file is found, unless its path is too long. -/
theorem stat_nested {more : ℕ} (hshort : (secondFile more).isShort) :
    nested.disk.stat (secondFile more) = .ok (["a", "y.ts"], .file (.text "")) := by
  have hshort' : (secondFile 0).isShort := by decide
  rw [Disk.stat, secondFile,
    Disk.find_spelled areNames_nested (by decide) hshort hshort' nested.disk true]
  rfl

theorem isFile_nested {more : ℕ} (hshort : (secondFile more).isShort) :
    ∀ file ∈ [⟨"/a/x.ts"⟩, secondFile more], nested.disk.isFile file := by
  simp only [List.forall_mem_cons]
  exact ⟨by decide, Disk.isFile_iff.2 ⟨_, _, stat_nested hshort⟩, List.forall_mem_nil _⟩

theorem exists_textToLint_nested {more : ℕ} (hshort : (secondFile more).isShort) :
    ∀ file ∈ [⟨"/a/x.ts"⟩, secondFile more], ∃ text,
      textToLint nested.disk none file = .ok text := by
  have hread : nested.disk.readText (secondFile more) = .ok "" := by
    rw [Disk.readText, stat_nested hshort]
    rfl
  simp only [List.forall_mem_cons]
  refine ⟨⟨some "x", rfl⟩, ⟨none, ?_⟩, List.forall_mem_nil _⟩
  rw [textToLint, SourceText.read, hread]
  rfl

theorem readOwn_nested : LintConfig.readOwn nested.disk ⟨"/a/lintfix.json"⟩ = .ok {} ∧
    ∃ e, LintConfig.readOwn nested.disk ⟨"/lintfix.json"⟩ = .error e := by
  have hempty : LintConfig.ofText "" = .ok {} := by cbv
  obtain ⟨e, hflaw⟩ : ∃ e, LintConfig.ofText "[" = .error e := ⟨_, by cbv⟩
  refine ⟨LintConfig.readOwn_eq_ok_iff.2 ⟨_, rfl, hempty⟩, .within ⟨"/lintfix.json"⟩ e, ?_⟩
  rw [LintConfig.readOwn, show nested.disk.readText ⟨"/lintfix.json"⟩ = .ok "[" from rfl]
  exact congrArg (Except.mapError (Problem.within ⟨"/lintfix.json"⟩)) hflaw

/-- The files of `nested` are none that is read as a configuration. -/
theorem readsNone_nested {more : ℕ} (hshort : (secondFile more).isShort)
    {calls : List (Call Ruleset)}
    (hfound : ∀ source, .load source ∈ calls → ∀ p, source.file? nested.disk = some p →
      p = ⟨"/a/lintfix.json"⟩ ∨ p = ⟨"/lintfix.json"⟩) :
    ReadsNone nested.disk calls [⟨"/a/x.ts"⟩, secondFile more] := by
  have hplaces : ∀ file ∈ [⟨"/a/x.ts"⟩, secondFile more], ∃ name t,
      nested.disk.stat file = .ok (["a", name], t) ∧ name ≠ "lintfix.json" := by
    simp only [List.forall_mem_cons]
    exact ⟨⟨"x.ts", _, rfl, by decide⟩, ⟨"y.ts", _, stat_nested hshort, by decide⟩,
      List.forall_mem_nil _⟩
  have hconfig : nested.disk.stat ⟨"/a/lintfix.json"⟩ = .ok (["a", "lintfix.json"], _) := rfl
  have hconfig' : nested.disk.stat ⟨"/lintfix.json"⟩ = .ok (["lintfix.json"], _) := rfl
  intro source hsource p q hp hq file hfile place hat
  obtain ⟨name, u, hstat, hname⟩ := hplaces file hfile
  rcases hfound source hsource p hp with rfl | rfl
  · obtain rfl : q = _ := LintConfig.eq_of_reads (fun own hown => by
      obtain rfl := Except.ok.inj (hown.symm.trans readOwn_nested.1)
      rfl) hq
    exact Disk.not_at_of_stat hstat hconfig (by simpa using hname) hat
  · obtain rfl : q = _ := LintConfig.eq_of_reads (fun own hown => by
      obtain ⟨e, he⟩ := readOwn_nested.2
      cases hown.symm.trans he) hq
    exact Disk.not_at_of_stat hstat hconfig' (by simp) hat

theorem sourceFor_default (root file : Path) : Engine.sourceFor {} root file = .nearest file := rfl

variable {more : ℕ}

theorem load_nested_first : ∃ c, (Ruleset.load nested.engine.registry nested.disk
    (Engine.sourceFor {} ⟨"/"⟩ ⟨"/a/x.ts"⟩)).result = .ok c ∧ c.active = [] := by
  have hfound : (ConfigSource.nearest ⟨"/a/x.ts"⟩).file? nested.disk =
      some ⟨"/a/lintfix.json"⟩ := by decide
  refine ⟨⟨LintConfig.inheriting {} ⟨"/a/lintfix.json"⟩ [], []⟩, ?_, rfl⟩
  exact Ruleset.load_of_own hfound readOwn_nested.1 rfl rfl rfl

/-- The configuration beside the second file is not found if its path is too long. -/
theorem findNearest_nested (hlong : 4096 ≤ more + 15) (hshort : (secondFile more).isShort) :
    LintConfig.findNearest nested.disk (secondFile more) = some ⟨"/lintfix.json"⟩ := by
  have hfile : nested.disk.isFile (secondFile more) :=
    Disk.isFile_iff.2 ⟨_, _, stat_nested hshort⟩
  have hfolder : (secondFile more).folder = .spelled more [['a']] :=
    Path.folder_spelled more areNames_nested (by simp)
  have hnames : ∀ name ∈ LintConfig.fileNames, Path.AreNames ([['a']] ++ [name.toList]) ∧
      12 ≤ Text.size name.toList := by
    unfold Path.AreNames
    decide
  -- The path of the file is just short enough, and that of each candidate is longer.
  have hmissing : ∀ name ∈ LintConfig.fileNames,
      nested.disk.isFile ((Path.spelled more [['a']]).join ⟨name⟩) = false := by
    intro name hname
    obtain ⟨hare, hsize⟩ := hnames name hname
    rw [← String.ofList_toList (s := name), Path.spelled_join more hare (by simp),
      Bool.eq_false_iff]
    intro hisFile
    obtain ⟨place, content, hstat⟩ := Disk.isFile_iff.1 hisFile
    have hpath := Disk.isShort_of_find (Disk.stat_eq_ok_iff.1 hstat)
    rw [Path.isShort, Path.size_spelled more (by simp)] at hpath
    simp [Path.joinParts, Text.size, Path.sizeLimit, Char.utf8Size] at hpath
    omega
  have hbeside : LintConfig.findIn nested.disk (.spelled more [['a']]) = none := by
    simpa [LintConfig.findIn] using hmissing
  have habove : LintConfig.findIn nested.disk ⟨"/"⟩ = some ⟨"/lintfix.json"⟩ := by decide
  rw [LintConfig.findNearest_eq hfile, LintConfig.find?_candidates, hfolder,
    Path.ancestors_spelled more (by unfold Path.AreNames; decide), List.findSome?_cons, hbeside,
    List.findSome?_cons, habove]
  rfl

/-- Where the configuration beside the second file is not found, none can be loaded for it. -/
theorem load_nested_second (hlong : 4096 ≤ more + 15) (hshort : (secondFile more).isShort) :
    ∃ e, (Ruleset.load nested.engine.registry nested.disk
      (Engine.sourceFor {} ⟨"/"⟩ (secondFile more))).result = .error e := by
  have hfound : (ConfigSource.nearest (secondFile more)).file? nested.disk =
      some ⟨"/lintfix.json"⟩ := findNearest_nested hlong hshort
  rw [sourceFor_default]
  cases hload : (Ruleset.load nested.engine.registry nested.disk
      (.nearest (secondFile more))).result with
  | error e => exact ⟨e, rfl⟩
  | ok c =>
    rw [Ruleset.load, Traced.bind_result, bind_eq_ok_iff] at hload
    obtain ⟨config, hread, -⟩ := hload
    cases LintConfig.ofFile_eq_ok_iff.1 ((Ruleset.read_eq_ok_iff hfound).1 hread) with
    | of _ hown =>
      obtain ⟨e, he⟩ := readOwn_nested.2
      cases hown.symm.trans he

theorem sameFolder_nested (more : ℕ) : SameFolder ⟨"/a/x.ts"⟩ (secondFile more) := by
  have hfirst : (CurrentConfig.folder ⟨"/a/x.ts"⟩).components = [.root, .name "a"] := by decide
  have hsecond : (CurrentConfig.folder (secondFile more)).components = [.root, .name "a"] := by
    rw [CurrentConfig.folder, Path.components_folder, secondFile,
      Path.components_spelled more areNames_nested (by simp)]
    decide
  rw [sameFolder_iff, hfirst, hsecond]

theorem folderRuns_nested (more : ℕ) :
    folderRuns [⟨"/a/x.ts"⟩, secondFile more] = [[⟨"/a/x.ts"⟩, secondFile more]] :=
  folderRuns_pair (sameFolder_nested more)

/-- Two configurations are found for the files of `nested`, if the path to the second file is too
    long to look up the one beside it. -/
theorem file?_nested (hlong : 4096 ≤ more + 15) (hshort : (secondFile more).isShort) {file p : Path}
    (hfile : file ∈ [⟨"/a/x.ts"⟩, secondFile more])
    (hp : (ConfigSource.nearest file).file? nested.disk = some p) :
    p = ⟨"/a/lintfix.json"⟩ ∨ p = ⟨"/lintfix.json"⟩ := by
  rw [ConfigSource.file?] at hp
  rcases List.mem_cons.1 hfile with rfl | hfile
  · have hfound : LintConfig.findNearest nested.disk ⟨"/a/x.ts"⟩ = some ⟨"/a/lintfix.json"⟩ := by
      decide
    exact .inl (Option.some.inj (hp.symm.trans hfound))
  · obtain rfl := List.mem_singleton.1 hfile
    exact .inr (Option.some.inj (hp.symm.trans (findNearest_nested hlong hshort)))

/-! ### The whole run -/

/-- Keeping the configuration of a folder is the same as loading one for every file: the outcome is
    the same, the same is linted under configurations that are alike, the same is found, fixed and
    written. The files have to exist, and none of them may be read as a configuration. Where files
    that follow each other in one folder have it written in different ways, all paths that are
    looked up have to be short. -/
theorem lintAll_eq_lintEach {options : TaskOptions} {root : Path} {project : Option Project}
    {files : List Path} {w : World RuleEngine} (hfiles : ∀ file ∈ files, w.disk.isFile file)
    (hread : ReadsNone w.disk
      (ruleEngine.logged.lintAll options root project files w.logging).2.engine.2 files)
    (hspelled : ∀ run ∈ folderRuns files, ∀ file ∈ run, ∀ other ∈ run,
      file.folder = other.folder ∨ (Engine.sourceFor options root other).LooksShort w.disk) :
    let kept := ruleEngine.logged.lintAll options root project files w.logging
    let fresh := ruleEngine.logged.lintEach options root project files w.logging
    (kept.1.map fun _ => ()) = fresh.1 ∧ kept.2.disk = fresh.2.disk ∧
      kept.2.engine.1 = fresh.2.engine.1 ∧ kept.2.messages = fresh.2.messages ∧
      SameLints kept.2.engine.2 fresh.2.engine.2 := by
  have hkept : ruleEngine.logged.lintAll options root project files w.logging = _ :=
    ruleEngine.lintAll_of_logs options root project ruleEngine.logs_logged files w []
  have hfresh : ruleEngine.logged.lintEach options root project files w.logging = _ :=
    Engine.lintEach_of_logs ruleEngine.logs_logged files w []
  obtain ⟨hflatten, -, -, -⟩ := folderRuns_eq_iff.1 (rfl : folderRuns files = _)
  rw [hkept] at hread
  have hmem : ∀ run ∈ folderRuns files, ∀ file ∈ run, file ∈ files := fun run hrun file hfile => by
    rw [hflatten]
    exact List.mem_flatten_of_mem hrun hfile
  -- No file is read for a configuration that is loaded on the way.
  have hapart : ∀ source, .load source ∈ (Transcript.inOrder ((folderRuns files).map
      (ruleEngine.folderTranscript options root project)) w).calls → ∀ p,
      source.file? w.disk = some p →
      LintConfig.Apart w.disk (fun place => ∃ file ∈ files, w.disk.At file place) [] p := by
    rintro source hsource p hp q hq place hat ⟨file, hfile, hat'⟩
    exact hread source hsource p q hp hq file hfile place hat' hat
  have hagree : Agree w (fun place => ∃ file ∈ files, w.disk.At file place) _ _ :=
    folderTranscripts_agree project
      (fun run hrun file hfile => hfiles file (hmem run hrun file hfile))
      (fun run hrun file hfile place hat => ⟨file, hmem run hrun file hfile, hat⟩)
      (fun run hrun first hfirst file hfile =>
        together_of_mem hfiles hspelled hrun (List.mem_of_mem_head? hfirst) hfile)
      hapart ⟨.refl w.disk, rfl⟩ (.refl w)
  obtain ⟨houtcome, hworld, hlints, -⟩ := hagree
  rw [← hflatten] at houtcome hworld hlints
  rw [hkept, hfresh]
  dsimp only
  refine ⟨?_, hworld.disk_eq, hworld.engine_eq, hworld.messages_eq, hlints⟩
  have hforget : ∀ (outcome : Except LintError Unit) (n : ℕ),
      ((outcome.map fun _ => n).map fun _ => ()) = outcome := by
    rintro (e | _) n <;> rfl
  exact (hforget _ _).trans houtcome

theorem lintAll_eq_lintEach_letters :
    let files := [⟨"/a.ts"⟩, ⟨"/c.ts"⟩]
    ((∀ file ∈ files, letters.disk.isFile file) ∧
      ReadsNone letters.disk
        (ruleEngine.logged.lintAll lettersTask ⟨"/"⟩ none files letters.logging).2.engine.2 files ∧
      ∀ run ∈ folderRuns files, ∀ file ∈ run, ∀ other ∈ run, file.folder = other.folder ∨
        (Engine.sourceFor lettersTask ⟨"/"⟩ other).LooksShort letters.disk) ∧
    let kept := ruleEngine.logged.lintAll lettersTask ⟨"/"⟩ none files letters.logging
    let fresh := ruleEngine.logged.lintEach lettersTask ⟨"/"⟩ none files letters.logging
    kept.1 = .ok 1 ∧ fresh.1 = .ok () ∧ fresh.2.disk = lettersDisk "b" ∧
      fresh.2.engine.1.failures = [] ∧ fresh.2.engine.1.fixes = [letterFound ⟨"/a.ts"⟩] ∧
      kept.2.messages = fresh.2.messages ∧ SameLints kept.2.engine.2 fresh.2.engine.2 := by
  intro files
  have hread : ReadsNone letters.disk (ruleEngine.logged.lintAll lettersTask ⟨"/"⟩ none files
      letters.logging).2.engine.2 files :=
    LintsOnce.readsNone (w := letters) lintsOnce_letters
  have hspelled : ∀ run ∈ folderRuns files, ∀ file ∈ run, ∀ other ∈ run,
      file.folder = other.folder ∨
        (Engine.sourceFor lettersTask ⟨"/"⟩ other).LooksShort letters.disk := by
    intro run hrun file hfile other hother
    have hfolder : ∀ run ∈ folderRuns files, ∀ file ∈ run, file.folder = ⟨"/"⟩ := by decide
    exact .inl ((hfolder run hrun file hfile).trans (hfolder run hrun other hother).symm)
  have hfiles : ∀ file ∈ files, letters.disk.isFile file := by decide
  obtain ⟨w, hall, hdisk, hengine⟩ :=
    lintAll_letters_both lettersTask none (w := letters) rfl rfl rfl rfl rfl rfl
  have hrun : ruleEngine.lintAll lettersTask ⟨"/"⟩ none files letters = _ :=
    ruleEngine.lintAll_of_logs lettersTask ⟨"/"⟩ none ruleEngine.logs_self files letters []
  have hkept : ruleEngine.logged.lintAll lettersTask ⟨"/"⟩ none files letters.logging = _ :=
    ruleEngine.lintAll_of_logs lettersTask ⟨"/"⟩ none ruleEngine.logs_logged files letters []
  obtain ⟨hone, hworld⟩ := Prod.mk.inj (hall.symm.trans hrun)
  dsimp only at hworld hkept
  rw [← hone, ← hworld] at hkept
  obtain ⟨houtcome, hdisk', hengine', hmessages, hlints⟩ :=
    lintAll_eq_lintEach hfiles hread hspelled
  refine ⟨⟨hfiles, hread, hspelled⟩, ?_⟩
  dsimp only
  rw [← houtcome, ← hdisk', ← hengine', ← hmessages, hkept]
  refine ⟨rfl, rfl, hdisk, ?_, ?_, rfl, ?_⟩
  · exact congrArg RuleEngine.failures hengine
  · exact congrArg RuleEngine.fixes hengine
  · rwa [hkept] at hlints

/-- Where the path to the second file of a folder is so long that no configuration can be looked up
    under it, the file is linted under the one that has been kept, but none can be loaded for it. -/
theorem lintEach_fails_on_long_path :
    let files := [⟨"/a/x.ts"⟩, secondFile 4084]
    ((∀ file ∈ files, nested.disk.isFile file) ∧
      ReadsNone nested.disk
        (ruleEngine.logged.lintAll {} ⟨"/"⟩ none files nested.logging).2.engine.2 files) ∧
    (ruleEngine.logged.lintAll {} ⟨"/"⟩ none files nested.logging).1 = .ok 1 ∧
    ∃ e, (ruleEngine.logged.lintEach {} ⟨"/"⟩ none files nested.logging).1 = .error e := by
  have hshort : (secondFile 4084).isShort := by
    rw [Path.isShort, secondFile, Path.size_spelled 4084 (by simp)]
    decide
  have hread : ReadsNone nested.disk (ruleEngine.logged.lintAll {} ⟨"/"⟩ none
      [⟨"/a/x.ts"⟩, secondFile 4084] nested.logging).2.engine.2
      [⟨"/a/x.ts"⟩, secondFile 4084] := by
    refine readsNone_nested hshort fun source hsource p hp => ?_
    obtain ⟨file, hfile, rfl⟩ := exists_of_load_mem hsource
    exact file?_nested (by decide) hshort hfile hp
  obtain ⟨c, hload, hactive⟩ := load_nested_first
  have htext := exists_textToLint_nested hshort
  refine ⟨⟨isFile_nested hshort, hread⟩, ?_, ?_⟩
  · -- The configuration that is kept from the first file has no rules.
    have hfolder := folderTranscript_of_active_nil hactive hload htext
    have hdone : (ruleEngine.transcript {} ⟨"/"⟩ none [⟨"/a/x.ts"⟩, secondFile 4084]
        nested).outcome = .ok () := by
      rw [Engine.transcript, folderRuns_nested, List.map_singleton, Transcript.inOrder,
        Transcript.outcome_andThen hfolder]
      rfl
    rw [lintAll_outcome, hdone, folderRuns_nested]
    rfl
  · -- For the second file none can be looked up.
    obtain ⟨e, herror⟩ := load_nested_second (by decide) hshort
    refine ⟨e, ?_⟩
    rw [lintEach_outcome]
    exact freshTranscripts_of_load_error hactive hload (htext _ List.mem_cons_self) herror

end RuleEngine

end Autofix
