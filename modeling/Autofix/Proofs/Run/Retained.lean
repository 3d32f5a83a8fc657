import Autofix.Proofs.Config.Alike
import Autofix.Proofs.Project.Members
import Autofix.Proofs.Run.Steps

/-!
# Runs on the texts that a project keeps

A run with a project lints the texts that the project was loaded with, and one without it those that
are on the disk when it comes to them. Both are the same run as long as the disk holds what the
project keeps and no file is linted again after it has been fixed
(`RuleEngine.lintAll_project_eq_disk`). A file that is fixed and then linted again is fixed a second
time by the run with the project, which does not see what it has written
(`RuleEngine.fixed_twice_by_project`).
-/

namespace Autofix

namespace RuleEngine

variable {start w : World RuleEngine} {files : List Path} {options : TaskOptions} {root : Path}
  {project : Project} {current : CurrentConfig Ruleset}

/-- The project keeps for each of the files the text that is on the disk. -/
def Keeps (project : Project) (d : Disk) (files : List Path) : Prop :=
  ∀ file ∈ files, ∃ text, project.textOf? file = some text ∧ SourceText.read d file = .ok text

/-- The fixes that have been recorded since a world. -/
def fixesSince (start w : World RuleEngine) : List Diagnostic :=
  w.engine.fixes.drop start.engine.fixes.length

/-- No file is linted again after the run has fixed it, under whatever path. -/
def NoneAgain (options : TaskOptions) (root : Path) (project : Option Project) (files : List Path)
    (w : World RuleEngine) : Prop :=
  ∀ before file after, files = before ++ file :: after →
    ∀ x ∈ fixesSince w (ruleEngine.lintAll options root project before w).2,
      ∀ place, w.disk.At x.path place → ¬w.disk.At file place

theorem FixedSince.fixesSince_eq {fixes : List Diagnostic}
    (h : FixedSince start w.disk w.engine fixes) : fixesSince start w = fixes := by
  rw [fixesSince, h.fixes_eq, List.drop_left]

theorem isFile_of_read {d : Disk} {file : Path} {text : String}
    (h : SourceText.read d file = .ok text) : d.isFile file := by
  cases hread : d.readText file with
  | ok s => exact Disk.isFile_of_readText hread
  | error e =>
    rw [SourceText.read, hread] at h
    cases h

/-- The texts to lint are the same with the project and without it. -/
theorem textToLint_of_keeps {d d' : Disk} {file : Path} (h : Keeps project d files)
    (hfile : file ∈ files) (hread : d'.readText file = d.readText file) :
    textToLint d' (some project) file = textToLint d' none file := by
  obtain ⟨text, htext, hdisk⟩ := h file hfile
  rw [SourceText.read, ← hread, ← SourceText.read] at hdisk
  simp only [textToLint, htext, hdisk]
  rfl

/-- Linting the rest of the files comes to the same with the project and without it, if none of them
    has been fixed since the start when the run comes to it. -/
theorem lintFrom_project_eq_disk {fixes : List Diagnostic}
    (hkeeps : Keeps project start.disk files) (hsince : FixedSince start w.disk w.engine fixes)
    (hagain : ∀ before file after, files = before ++ file :: after → ∀ x ∈ fixesSince start
        (ruleEngine.lintFrom options root (some project) current before w).2,
      ∀ place, start.disk.At x.path place → ¬start.disk.At file place) :
    ruleEngine.lintFrom options root (some project) current files w =
      ruleEngine.lintFrom options root none current files w := by
  induction files generalizing w current fixes with
  | nil => rfl
  | cons file files ih =>
    -- No fix so far is for this file, so that the disk still holds what the project keeps for it.
    have hapart : ∀ place, start.disk.At file place →
        ¬∃ x ∈ fixes, start.disk.At x.path place := by
      rintro place hat ⟨x, hx, hat'⟩
      exact hagain [] file files rfl x (hsince.fixesSince_eq.symm ▸ hx) place hat' hat
    have htext := textToLint_of_keeps hkeeps List.mem_cons_self
      (hsince.rewrites.readText_eq hapart)
    obtain ⟨text, -, hread⟩ := hkeeps file List.mem_cons_self
    have hnext := exists_fixedSince_lintNext options root (some project) current hsince
      (isFile_of_read hread)
    rw [Engine.lintFrom_cons_apply, Engine.lintFrom_cons_apply, ← lintNext_congr htext]
    cases hlinted : ruleEngine.lintNext options root (some project) current file w with
    | mk outcome w' =>
    rw [hlinted] at hnext
    cases outcome with
    | error e => rfl
    | ok next =>
      obtain ⟨more, hsince', -⟩ := hnext
      refine ih (fun file hfile => hkeeps file (List.mem_cons_of_mem _ hfile)) hsince' ?_
      intro before file' after hfiles x hx
      refine hagain (file :: before) file' after (congrArg (file :: ·) hfiles) x ?_
      rwa [Engine.lintFrom_cons_apply, hlinted]

/-- Files at places of their own are linted once each. -/
theorem noneAgain_of_pairwise {project : Option Project}
    (hfiles : ∀ file ∈ files, w.disk.isFile file)
    (hapart : files.Pairwise fun p q => ∀ place, w.disk.At p place → ¬w.disk.At q place) :
    NoneAgain options root project files w := by
  rintro before file after rfl x hx
  have hbefore : ∀ other ∈ before, w.disk.isFile other := fun other hother =>
    hfiles other (List.mem_append_left _ hother)
  obtain ⟨more, hsince, hpath⟩ :=
    exists_fixedSince_lintFrom options root project {} (.refl w) hbefore
  rw [Engine.lintAll, hsince.fixesSince_eq] at hx
  exact (List.pairwise_append.1 hapart).2.2 _ (hpath x hx) file List.mem_cons_self

/-! ### A world with a project -/

/-- The configuration of `letters`. -/
def lettersConfig : String :=
  "\x7b\"rules\": \x7b\"letter\": \x7b\"pattern\": \"a\", \"replacement\": \"b\", " ++
    "\"message\": \"Write b\"\x7d\x7d\x7d"

/-- The project file of `letters`. -/
def lettersMembers : String := "\x7b\"files\": [\"a.ts\", \"c.ts\"]\x7d"

/-- A project of two files, the first one with the given text, and a configuration whose rule wants
    `b` in place of `a`. -/
def lettersDisk (text : String) : Disk :=
  ⟨.folder [("a.ts", .file (.text text)), ("c.ts", .file (.text "c")),
    ("lintfix.json", .file (.text lettersConfig)),
    ("project.json", .file (.text lettersMembers))], [], none⟩

def letters : World RuleEngine := { disk := lettersDisk "a", engine := {} }

/-- The project of `letters`. -/
def lettersProject : Project := ⟨⟨"/project.json"⟩, [(⟨"/a.ts"⟩, "a"), (⟨"/c.ts"⟩, "c")]⟩

theorem load_lettersProject :
    (Project.load letters.disk ⟨"/project.json"⟩).result = .ok lettersProject := by
  have hfile : ProjectFile.ofText ⟨"/project.json"⟩ lettersMembers =
      .ok { files := some ["a.ts", "c.ts"] } := by cbv
  have hlisted : Project.listed { files := some ["a.ts", "c.ts"] }
      (Project.baseDir ⟨"/project.json"⟩) = [⟨"/a.ts"⟩, ⟨"/c.ts"⟩] := by decide
  refine Project.load_eq_ok_iff.2
    ⟨_, _, [], lettersProject.members, [], rfl, hfile, ?_, ?_, rfl, rfl⟩
  · rfl
  · rw [hlisted]
    rfl

/-- The files of `letters` are at places of their own. -/
theorem pairwise_letters : [⟨"/a.ts"⟩, ⟨"/c.ts"⟩].Pairwise fun p q : Path =>
    ∀ place, letters.disk.At p place → ¬letters.disk.At q place := by
  have hstat : letters.disk.stat ⟨"/a.ts"⟩ = .ok (["a.ts"], .file (.text "a")) := rfl
  have hstat' : letters.disk.stat ⟨"/c.ts"⟩ = .ok (["c.ts"], .file (.text "c")) := rfl
  exact List.pairwise_pair.2 fun place => Disk.not_at_of_stat hstat hstat' (by decide)

/-- The options of the rule of `letters`. -/
def lettersOptions : Json :=
  .object [("message", .string "Write b"), ("pattern", .string "a"), ("replacement", .string "b")]

theorem keeps_lettersProject : Keeps lettersProject letters.disk lettersProject.fileNames := by
  simp only [Keeps, Project.fileNames, lettersProject, List.map_cons, List.map_nil,
    List.forall_mem_cons]
  exact ⟨⟨"a", rfl, rfl⟩, ⟨"c", rfl, rfl⟩, List.forall_mem_nil _⟩

/-- The rules that `letters` loads for its files. -/
def lettersRules : Ruleset where
  config := .inheriting { rules := [("letter", .options lettersOptions)] } ⟨"/lintfix.json"⟩ []
  active := letterRules.active.map ({ · with options := lettersOptions })

theorem readOwn_letters : LintConfig.readOwn (lettersDisk "a") ⟨"/lintfix.json"⟩ =
    .ok { rules := [("letter", .options lettersOptions)] } :=
  LintConfig.readOwn_eq_ok_iff.2 ⟨lettersConfig, rfl, by cbv⟩

theorem load_letters :
    (Ruleset.load [] (lettersDisk "a") (.nearest ⟨"/a.ts"⟩)).result = .ok lettersRules :=
  have hfound : (ConfigSource.nearest ⟨"/a.ts"⟩).file? (lettersDisk "a") =
      some ⟨"/lintfix.json"⟩ := by decide
  Ruleset.load_of_own hfound readOwn_letters rfl rfl (by cbv)

theorem excludes_lettersRules (file : Path) : lettersRules.config.excludes file = false := rfl

theorem fileTranscript_letters (project : Option Project) {w : World RuleEngine} {d : Disk}
    (hregistry : w.engine.registry = []) (hfix : w.engine.options.fix)
    (htext : textToLint w.disk project ⟨"/a.ts"⟩ = .ok (some "a"))
    (hwrite : w.disk.writeText ⟨"/a.ts"⟩ "b" = .ok d) :
    let t := ruleEngine.fileTranscript project lettersRules ⟨"/a.ts"⟩ w
    t.outcome = .ok () ∧ t.world.disk = d ∧
      t.world.engine = w.engine.recorded [] [letterFound ⟨"/a.ts"⟩] := by
  have hcheck : lettersRules.check [] ⟨"/a.ts"⟩ "a" = [letterFound ⟨"/a.ts"⟩] := by cbv
  have hleft : lettersRules.check [] ⟨"/a.ts"⟩ "b" = [] := by cbv
  have happly : Fixing.apply "a" (lettersRules.check w.engine.registry ⟨"/a.ts"⟩ "a") =
      some ⟨"b", [letterFound ⟨"/a.ts"⟩]⟩ := by
    rw [hregistry, hcheck]
    cbv
  obtain ⟨houtcome, hdisk, hengine⟩ := lint_of_writeText (w := w.noted (.debug "Linting /a.ts"))
    (excludes_lettersRules _) hfix happly rfl hwrite
  rw [Engine.fileTranscript, htext]
  refine ⟨houtcome, hdisk, hengine.trans ?_⟩
  rw [show (w.noted _).engine.registry = [] from hregistry, hleft]
  rfl

/-- A file in which nothing is found stays as it is. -/
theorem fileTranscript_letters_of_nil (project : Option Project) {w : World RuleEngine}
    {file : Path} {text : String} (hregistry : w.engine.registry = [])
    (htext : textToLint w.disk project file = .ok (some text))
    (hnil : lettersRules.check [] file text = []) :
    let t := ruleEngine.fileTranscript project lettersRules file w
    t.outcome = .ok () ∧ t.world.disk = w.disk ∧ t.world.engine = w.engine := by
  have hnone : (lettersRules.check (w.noted (.debug s!"Linting {file.text}")).engine.registry file
      text).any (·.fix.isSome) = false := by
    rw [show (w.noted _).engine.registry = [] from hregistry, hnil]
    rfl
  obtain ⟨houtcome, hdisk, hengine⟩ := lint_of_no_fix (excludes_lettersRules _) hnone
  rw [Engine.fileTranscript, htext]
  refine ⟨houtcome, hdisk, hengine.trans ?_⟩
  rw [show (w.noted _).engine.registry = [] from hregistry, hnil, recorded, List.append_nil,
    List.append_nil]
  rfl

theorem writeText_lettersDisk (text : String) :
    (lettersDisk text).writeText ⟨"/a.ts"⟩ "b" = .ok (lettersDisk "b") := rfl

/-- The first file of `letters` is linted, and then the other ones. -/
theorem lintAll_letters (options : TaskOptions) (project : Option Project) {rest : List Path}
    (hdisk : w.disk = lettersDisk "a") (hregistry : w.engine.registry = [])
    (hfix : w.engine.options.fix) (hruns : folderRuns (⟨"/a.ts"⟩ :: rest) = [⟨"/a.ts"⟩ :: rest])
    (hsource : Engine.sourceFor options ⟨"/"⟩ ⟨"/a.ts"⟩ = .nearest ⟨"/a.ts"⟩)
    (htext : textToLint (lettersDisk "a") project ⟨"/a.ts"⟩ = .ok (some "a")) :
    ∃ w', w'.disk = lettersDisk "b" ∧
      w'.engine = w.engine.recorded [] [letterFound ⟨"/a.ts"⟩] ∧
      let t := Transcript.inOrder (rest.map (ruleEngine.fileTranscript project lettersRules)) w'
      ruleEngine.lintAll options ⟨"/"⟩ project (⟨"/a.ts"⟩ :: rest) w =
        (t.outcome.map fun _ => 1, t.world) := by
  have hload : (Ruleset.load w.engine.registry w.disk
      (Engine.sourceFor options ⟨"/"⟩ ⟨"/a.ts"⟩)).result = .ok lettersRules := by
    rw [hregistry, hdisk, hsource, load_letters]
  obtain ⟨told, hall⟩ := lintAll_of_load project hruns hload
  rw [← hdisk] at htext
  obtain ⟨houtcome, hdisk', hengine⟩ :=
    fileTranscript_letters project (w := { w with trace := told }) hregistry hfix htext
      (hdisk ▸ writeText_lettersDisk "a")
  refine ⟨_, hdisk', hengine, ?_⟩
  rw [hall, List.map_cons, Transcript.inOrder]
  dsimp only
  rw [Transcript.world_andThen houtcome, Transcript.outcome_andThen houtcome]

/-! ### With the project and without it -/

/-- The run with a loaded project and the one without it are the same, on a disk that holds what the
    project keeps for the files, if no file is linted again after it has been fixed. -/
theorem lintAll_project_eq_disk (hkeeps : Keeps project w.disk files)
    (hagain : NoneAgain options root (some project) files w) :
    ruleEngine.lintAll options root (some project) files w =
      ruleEngine.lintAll options root none files w :=
  lintFrom_project_eq_disk hkeeps (.refl w) hagain

theorem lintAll_project_eq_disk_letters :
    (Keeps lettersProject letters.disk [⟨"/a.ts"⟩, ⟨"/c.ts"⟩] ∧
      NoneAgain {} ⟨"/"⟩ (some lettersProject) [⟨"/a.ts"⟩, ⟨"/c.ts"⟩] letters) ∧
    ruleEngine.lintAll {} ⟨"/"⟩ (some lettersProject) [⟨"/a.ts"⟩, ⟨"/c.ts"⟩] letters =
      ruleEngine.lintAll {} ⟨"/"⟩ none [⟨"/a.ts"⟩, ⟨"/c.ts"⟩] letters := by
  have hagain : NoneAgain {} ⟨"/"⟩ (some lettersProject) [⟨"/a.ts"⟩, ⟨"/c.ts"⟩] letters :=
    noneAgain_of_pairwise (by decide) pairwise_letters
  exact ⟨⟨keeps_lettersProject, hagain⟩,
    lintAll_project_eq_disk (w := letters) keeps_lettersProject hagain⟩

/-- What the project keeps for its members is what the disk holds. A file that is listed twice is
    fixed twice with the project, and once without it. -/
theorem fixed_twice_by_project :
    let files := [⟨"/a.ts"⟩, ⟨"/a.ts"⟩]
    ((Project.load letters.disk ⟨"/project.json"⟩).result = .ok lettersProject ∧
      (∀ file ∈ files, file ∈ lettersProject.fileNames) ∧
      Keeps lettersProject letters.disk lettersProject.fileNames) ∧
    (ruleEngine.lintAll {} ⟨"/"⟩ (some lettersProject) files letters).2.engine.fixes =
      [letterFound ⟨"/a.ts"⟩, letterFound ⟨"/a.ts"⟩] ∧
    (ruleEngine.lintAll {} ⟨"/"⟩ none files letters).2.engine.fixes = [letterFound ⟨"/a.ts"⟩] := by
  have hruns : folderRuns [⟨"/a.ts"⟩, ⟨"/a.ts"⟩] = [[⟨"/a.ts"⟩, ⟨"/a.ts"⟩]] := by decide
  refine ⟨⟨load_lettersProject, by decide, keeps_lettersProject⟩, ?_, ?_⟩
  · obtain ⟨w, hdisk, hengine, hall⟩ := lintAll_letters {} (some lettersProject) (w := letters) rfl
      rfl rfl hruns rfl rfl
    obtain ⟨-, -, hagain⟩ := fileTranscript_letters (some lettersProject) (w := w)
      (d := lettersDisk "b") (by rw [hengine]; rfl) (by rw [hengine]; rfl) rfl
      (by rw [hdisk, writeText_lettersDisk])
    rw [hall, List.map_singleton, Transcript.inOrder, Transcript.andThen_inOrder_nil, hagain,
      hengine]
    rfl
  · obtain ⟨w, hdisk, hengine, hall⟩ := lintAll_letters {} none (w := letters) rfl rfl rfl hruns
      rfl rfl
    have htext : textToLint w.disk none ⟨"/a.ts"⟩ = .ok (some "b") := by
      rw [hdisk]
      rfl
    have hleft : lettersRules.check [] ⟨"/a.ts"⟩ "b" = [] := by cbv
    obtain ⟨-, -, hagain⟩ := fileTranscript_letters_of_nil none (w := w) (by rw [hengine]; rfl)
      htext hleft
    rw [hall, List.map_singleton, Transcript.inOrder, Transcript.andThen_inOrder_nil, hagain,
      hengine]
    rfl

end RuleEngine

end Autofix
