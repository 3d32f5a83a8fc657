import Autofix.Proofs.Run.Aside
import Autofix.Proofs.Run.Reordered

/-!
# Files that are skipped

A file in which there is nothing to lint, and one that the configuration in force leaves out, adds
nothing to a run. So a run of given files comes to the same when some of these are not given
(`RuleEngine.run_without_skipped`): it records the same failures and fixes in the same order,
reports them in the same way, and leaves the same texts. The parts of the list that lie in one
folder are others then, and a configuration may be loaded for another file of the folder. So the
folder has to be written in the same way for all of its files, unless all paths that are looked up
are short; and if a project is named, one file has to be left, as otherwise its members are linted
(`RuleEngine.skipped_matters`).
-/

namespace Autofix

/-- Elements that nothing comes of may be left out. -/
theorem flatMap_filter_eq {α β : Type} {keep : α → Bool} {f : α → List β} {l : List α}
    (h : ∀ a ∈ l, keep a = false → f a = []) : (l.filter keep).flatMap f = l.flatMap f := by
  induction l with
  | nil => rfl
  | cons a l ih =>
    rw [List.forall_mem_cons] at h
    cases hkeep : keep a with
    | false => rw [List.filter_cons_of_neg (by simp [hkeep]), List.flatMap_cons, h.1 hkeep, ih h.2,
        List.nil_append]
    | true => rw [List.filter_cons_of_pos hkeep, List.flatMap_cons, List.flatMap_cons, ih h.2]

/-- The options without those given files that are not to be kept. -/
def TaskOptions.keeping (options : TaskOptions) (root : Path) (keep : Path → Bool) : TaskOptions :=
  options.withFiles (options.files.filter fun file => keep (root.join ⟨file⟩))

theorem TaskOptions.given_keeping (options : TaskOptions) (root : Path) (keep : Path → Bool) :
    (options.keeping root keep).given root = (options.given root).filter keep :=
  List.filter_map.symm

namespace RuleEngine

variable {start w w' after after' : World RuleEngine} {rules : Path → Ruleset}
  {result : Path → Linted} {files files' : List Path} {file : Path} {options : TaskOptions}
  {root : Path} {project : Option Project}

/-- There is nothing to lint in a file, or the configuration that is loaded for the first file of
    its part of the list leaves it out. -/
def Skipped (options : TaskOptions) (root : Path) (w : World RuleEngine) (files : List Path)
    (file : Path) : Prop :=
  textToLint w.disk none file = .ok none ∨
    ∃ run ∈ folderRuns files, file ∈ run ∧ ∃ first ∈ run.head?, ∃ c,
      (Ruleset.load w.engine.registry w.disk
        (Engine.sourceFor options root first)).result = .ok c ∧ c.config.excludes file

/-- A run of given files comes to their end, and skips those that are not to be kept. The files are
    at places of their own, and none is read as a configuration. -/
structure SkipsRest (options : TaskOptions) (root : Path) (w : World RuleEngine)
    (keep : Path → Bool) : Prop where
  includes : options.includes = []
  places : AtPlaces (options.given root) w.disk
  reads : ReadsNone w.disk (ruleEngine.logged.lintAll options root none (options.given root)
    (ruleEngine.prepared options root w).logging).2.engine.2 (options.given root)
  finishes : ruleEngine.Finishes options root w
  skipped : ∀ file ∈ options.given root, keep file = false →
    Skipped options root w (options.given root) file

/-- Nothing comes of a file that is skipped. -/
theorem Settled.eq_of_skipped (h : Settled options root none files start rules result)
    (hloaded : LoadedFirst options root start rules (folderRuns files)) (hfile : file ∈ files)
    (hskipped : Skipped options root start files file) : result file = {} := by
  obtain ⟨text, htext, hlinted⟩ := becomes?_eq_some_iff.1 (h.becomes file hfile)
  rcases hskipped with hnone | ⟨run, hrun, hmem, first, hfirst, c, hload, hexcludes⟩
  · obtain rfl := Except.ok.inj (htext.symm.trans hnone)
    exact (Option.some.inj hlinted).symm
  · obtain rfl := Except.ok.inj (hload.symm.trans (hloaded run hrun first hfirst file hmem))
    cases text with
    | none => exact (Option.some.inj hlinted).symm
    | some content =>
      rw [Ruleset.linted?, if_pos hexcludes] at hlinted
      exact (Option.some.inj hlinted).symm

theorem AtPlaces.sublist {d : Disk} (h : AtPlaces files d) (hsub : files'.Sublist files) :
    AtPlaces files' d :=
  ⟨fun file hfile => h.isFile file (hsub.subset hfile), h.apart.sublist hsub⟩

/-- What is left, and what is told about it, when some of the files are linted and nothing comes of
    the other ones. -/
theorem LintedSince.eq_of_skipped {keep : Path → Bool} (h : LintedSince start result files after)
    (h' : LintedSince start result (files.filter keep) after')
    (hskipped : ∀ file ∈ files, keep file = false → result file = {}) :
    after'.engine = after.engine ∧ ∀ p, after.disk.readText p = after'.disk.readText p := by
  refine ⟨?_, h.readText_selected h' (fun _ => List.mem_of_mem_filter) fun file hfile hsome => ?_⟩
  · rw [h.engine_eq, h'.engine_eq,
      flatMap_filter_eq fun file hfile hkeep => by rw [hskipped file hfile hkeep],
      flatMap_filter_eq fun file hfile hkeep => by rw [hskipped file hfile hkeep]]
  · refine List.mem_filter.2 ⟨hfile, ?_⟩
    by_contra hkeep
    rw [hskipped file hfile (by simpa using hkeep)] at hsome
    cases hsome

/-! ### The whole run -/

/-- Skipped files leave no trace. If a run of given files comes to their end, so it does when some
    files are not given that it skips: the outcome is the same, the same failures and fixes are
    recorded in the same order and reported in the same message, and the same text is left in every
    file. -/
theorem run_without_skipped {keep : Path → Bool} (h : SkipsRest options root w keep)
    (hgiven : options.compilerConfigPath = none ∨ (options.given root).filter keep ≠ [])
    (hspelled : SpelledAlike options root w.disk (options.given root)) :
    let options' := options.keeping root keep
    ruleEngine.Finishes options' root w ∧
      let (outcome, after) := ruleEngine.run options root w
      let (outcome', after') := ruleEngine.run options' root w
      outcome' = outcome ∧ after'.engine.result = after.engine.result ∧
        after'.messages = after.messages ∧ ∀ p, after.disk.readText p = after'.disk.readText p := by
  have hfiles := options.given_keeping root keep
  have hset : (FileSet.resolve w.disk options root).result = .ok ⟨options.given root, none⟩ := by
    refine FileSet.resolve_given h.includes (hgiven.imp id fun hne hnil => hne ?_) w.disk root
    rw [TaskOptions.given, hnil]
    rfl
  have hset' : (FileSet.resolve w.disk (options.keeping root keep) root).result =
      .ok ⟨(options.keeping root keep).given root, none⟩ := by
    have hincludes' : (options.keeping root keep).includes = [] := h.includes
    refine FileSet.resolve_given hincludes' (hgiven.imp id fun hne hnil => hne ?_) w.disk root
    rw [← hfiles, TaskOptions.given, hnil]
    rfl
  obtain ⟨set, n, hfound, hall⟩ := h.finishes
  obtain rfl := Except.ok.inj (hset.symm.trans hfound)
  obtain ⟨rules, result, hsettled, hloaded, hapart⟩ :=
    exists_settled (ruleEngine.prepared options root w) h.places h.reads hall
  -- Only the trace of the world tells which files are given.
  have hsettled' : Settled (options.keeping root keep) root none
      ((options.keeping root keep).given root)
      (ruleEngine.prepared (options.keeping root keep) root w) rules result := by
    rw [hfiles]
    exact (hsettled.selected hloaded hapart hspelled (h.places.sublist List.filter_sublist)
      fun _ => List.mem_of_mem_filter).congr rfl rfl rfl
  obtain ⟨_, hlinted', -⟩ := lintAll_of_settled hsettled'
  have hfinishes' : ruleEngine.Finishes (options.keeping root keep) root w :=
    ⟨_, _, hset', congrArg Prod.fst hlinted'⟩
  obtain ⟨hsince, houtcome⟩ := run_of_settled hset hsettled
  obtain ⟨hsince', houtcome'⟩ := run_of_settled hset' hsettled'
  have hmessages := messages_run h.finishes
  have hmessages' := messages_run hfinishes'
  rw [hfiles] at hsince'
  obtain ⟨hengine, hread⟩ := hsince.eq_of_skipped (hsince'.congr rfl rfl) fun file hfile hkeep =>
    hsettled.eq_of_skipped hloaded hfile (h.skipped file hfile hkeep)
  have hresult := congrArg RuleEngine.result hengine
  rw [hresult] at houtcome' hmessages'
  exact ⟨hfinishes', houtcome'.trans houtcome.symm, hresult, hmessages'.trans hmessages.symm, hread⟩

/-! ### A file with a finding behind an empty one -/

/-- A world with a file in which the rule of `letters` finds something, and an empty file. -/
def halfEmpty : World RuleEngine where
  disk := ⟨.folder [("a.ts", .file (.text "a")), ("c.ts", .file (.text "")),
    ("lintfix.json", .file (.text lettersConfig))], [], none⟩
  engine := {}

/-- The task to lint both files, the empty one first. -/
def halfEmptyTask : TaskOptions := { explicitFiles := some (.many ["c.ts", "a.ts"]) }

/-- The file that is not empty is kept. -/
def halfEmptyKept (file : Path) : Bool := file ≠ ⟨"/c.ts"⟩

theorem readOwn_halfEmpty : LintConfig.readOwn halfEmpty.disk ⟨"/lintfix.json"⟩ =
    .ok { rules := [("letter", .options lettersOptions)] } :=
  LintConfig.readOwn_eq_ok_iff.2 ⟨lettersConfig, rfl, by cbv⟩

theorem load_halfEmpty :
    (Ruleset.load [] halfEmpty.disk (.nearest ⟨"/c.ts"⟩)).result = .ok lettersRules :=
  have hfound : (ConfigSource.nearest ⟨"/c.ts"⟩).file? halfEmpty.disk =
      some ⟨"/lintfix.json"⟩ := by decide
  Ruleset.load_of_own hfound readOwn_halfEmpty rfl rfl (by cbv)

theorem lintsOnce_halfEmpty :
    LintsOnce halfEmptyTask ⟨"/"⟩ none [⟨"/c.ts"⟩, ⟨"/a.ts"⟩] halfEmpty.disk := by
  have hempty : halfEmpty.disk.stat ⟨"/c.ts"⟩ = .ok (["c.ts"], .file (.text "")) := rfl
  have hfound : halfEmpty.disk.stat ⟨"/a.ts"⟩ = .ok (["a.ts"], .file (.text "a")) := rfl
  have hconfig : halfEmpty.disk.stat ⟨"/lintfix.json"⟩ = .ok (["lintfix.json"], _) := rfl
  refine .of_own (by decide)
    (List.pairwise_pair.2 fun place => Disk.not_at_of_stat hempty hfound (by decide)) (by decide)
    readOwn_halfEmpty rfl (List.forall_mem_cons.2 ⟨fun place => ?_, List.forall_mem_singleton.2
      fun place => ?_⟩)
  · exact Disk.not_at_of_stat hconfig hempty (by decide)
  · exact Disk.not_at_of_stat hconfig hfound (by decide)

/-- The empty file is skipped, and the other one is fixed. -/
theorem lintAll_halfEmpty : ∃ after, ruleEngine.lintAll halfEmptyTask ⟨"/"⟩ none
      [⟨"/c.ts"⟩, ⟨"/a.ts"⟩] (ruleEngine.prepared halfEmptyTask ⟨"/"⟩ halfEmpty) = (.ok 1, after) ∧
    after.engine.result = ⟨[], [letterFound ⟨"/a.ts"⟩]⟩ ∧
    after.disk.readText ⟨"/a.ts"⟩ = .ok "b" := by
  have hruns : folderRuns [⟨"/c.ts"⟩, ⟨"/a.ts"⟩] = [[⟨"/c.ts"⟩, ⟨"/a.ts"⟩]] := by decide
  have hload : (Ruleset.load [] halfEmpty.disk
      (Engine.sourceFor halfEmptyTask ⟨"/"⟩ ⟨"/c.ts"⟩)).result = .ok lettersRules := load_halfEmpty
  obtain ⟨told, hall⟩ := lintAll_of_load
    (w := ruleEngine.prepared halfEmptyTask ⟨"/"⟩ halfEmpty) none hruns hload
  set start : World RuleEngine :=
    { ruleEngine.prepared halfEmptyTask ⟨"/"⟩ halfEmpty with trace := told }
  have hskipped : ruleEngine.fileTranscript none lettersRules ⟨"/c.ts"⟩ start =
      ⟨[], .ok (), start.noted (.debug "Skipping empty file /c.ts")⟩ := rfl
  obtain ⟨d, hwrite⟩ : ∃ d, halfEmpty.disk.writeText ⟨"/a.ts"⟩ "b" = .ok d :=
    Disk.exists_writeText (by decide) "b"
  obtain ⟨houtcome, hdisk, hengine⟩ := fileTranscript_letters none
    (w := start.noted (.debug "Skipping empty file /c.ts")) rfl rfl rfl hwrite
  refine ⟨_, ?_, congrArg RuleEngine.result hengine, ?_⟩
  · rw [hall, List.map_cons, List.map_singleton, Transcript.inOrder, hskipped,
      Transcript.outcome_andThen rfl, Transcript.world_andThen rfl, Transcript.inOrder,
      Transcript.andThen_inOrder_nil, houtcome]
    rfl
  · rw [hdisk]
    exact Disk.readText_of_writeText (by decide) hwrite

theorem skipsRest_halfEmpty :
    SkipsRest halfEmptyTask ⟨"/"⟩ halfEmpty halfEmptyKept where
  includes := rfl
  places := lintsOnce_halfEmpty.places
  reads := LintsOnce.readsNone (w := ruleEngine.prepared halfEmptyTask ⟨"/"⟩ halfEmpty)
    lintsOnce_halfEmpty
  finishes := by
    obtain ⟨after, hall, -⟩ := lintAll_halfEmpty
    exact ⟨_, 1, FileSet.resolve_given rfl (.inl rfl) _ _, congrArg Prod.fst hall⟩
  skipped file _ hkeep := by
    obtain rfl := not_not.1 (of_decide_eq_false hkeep)
    exact .inl rfl

theorem run_without_skipped_halfEmpty :
    (SkipsRest halfEmptyTask ⟨"/"⟩ halfEmpty halfEmptyKept ∧
      halfEmptyTask.compilerConfigPath = none ∧
      SpelledAlike halfEmptyTask ⟨"/"⟩ halfEmpty.disk (halfEmptyTask.given ⟨"/"⟩)) ∧
    let options' := halfEmptyTask.keeping ⟨"/"⟩ halfEmptyKept
    options'.given ⟨"/"⟩ = [⟨"/a.ts"⟩] ∧ ruleEngine.Finishes options' ⟨"/"⟩ halfEmpty ∧
      let (outcome, after) := ruleEngine.run halfEmptyTask ⟨"/"⟩ halfEmpty
      let (outcome', after') := ruleEngine.run options' ⟨"/"⟩ halfEmpty
      outcome' = outcome ∧ after.engine.result = ⟨[], [letterFound ⟨"/a.ts"⟩]⟩ ∧
        after'.engine.result = ⟨[], [letterFound ⟨"/a.ts"⟩]⟩ ∧
        after'.messages = after.messages ∧ after.disk.readText ⟨"/a.ts"⟩ = .ok "b" ∧
        ∀ p, after.disk.readText p = after'.disk.readText p := by
  have hfolder : ∀ file ∈ halfEmptyTask.given ⟨"/"⟩, file.folder = ⟨"/"⟩ := by decide
  have hspelled : SpelledAlike halfEmptyTask ⟨"/"⟩ halfEmpty.disk _ :=
    spelledAlike_of_folder hfolder
  have hset : (FileSet.resolve halfEmpty.disk halfEmptyTask ⟨"/"⟩).result =
      .ok ⟨[⟨"/c.ts"⟩, ⟨"/a.ts"⟩], none⟩ := rfl
  obtain ⟨linted, hall, hresult, hread⟩ := lintAll_halfEmpty
  obtain ⟨hdisk, hengine, -⟩ := run_of_lintAll hset hall
  obtain ⟨hfinishes, hsame⟩ := run_without_skipped skipsRest_halfEmpty (.inl rfl) hspelled
  refine ⟨⟨skipsRest_halfEmpty, rfl, hspelled⟩, by decide, hfinishes, ?_⟩
  generalize ruleEngine.run halfEmptyTask ⟨"/"⟩ halfEmpty = ran at hdisk hengine hsame ⊢
  generalize ruleEngine.run (halfEmptyTask.keeping ⟨"/"⟩ halfEmptyKept) ⟨"/"⟩ halfEmpty = ran'
    at hsame ⊢
  obtain ⟨outcome, after⟩ := ran
  obtain ⟨outcome', after'⟩ := ran'
  obtain ⟨houtcome, hresult', hmessages, hreads⟩ := hsame
  dsimp only at hdisk hengine
  rw [← hengine] at hresult
  rw [← hdisk] at hread
  exact ⟨houtcome, hresult, hresult'.trans hresult, hmessages, hread, hreads⟩

/-! ### An empty file -/

/-- The world `nested` with nothing in the first file. -/
def emptied : World RuleEngine where
  disk := ⟨.folder [("a", .folder [("lintfix.json", .file (.text "")), ("x.ts", .file (.text "")),
    ("y.ts", .file (.text ""))]), ("lintfix.json", .file (.text "["))], [], none⟩
  engine := {}

theorem rewrites_emptied : nested.disk.Rewrites (nested.disk.At ⟨"/a/x.ts"⟩) emptied.disk := by
  have hwrite : nested.disk.writeText ⟨"/a/x.ts"⟩ "" = .ok emptied.disk := rfl
  obtain ⟨place, hat, hrewrites⟩ := Disk.rewrites_of_writeText (by decide) hwrite
  exact hrewrites.mono fun _ heq => heq ▸ hat

/-- The files are none that is read as a configuration. -/
theorem readsNone_emptied {more : ℕ} (hshort : (secondFile more).isShort)
    {calls : List (Call Ruleset)}
    (hfound : ∀ source, .load source ∈ calls → ∀ p, source.file? nested.disk = some p →
      p = ⟨"/a/lintfix.json"⟩ ∨ p = ⟨"/lintfix.json"⟩) :
    ReadsNone emptied.disk calls [⟨"/a/x.ts"⟩, secondFile more] := by
  have hsame : ∀ p ∈ [(⟨"/a/lintfix.json"⟩ : Path), ⟨"/lintfix.json"⟩],
      LintConfig.readOwn emptied.disk p = LintConfig.readOwn nested.disk p := by
    simp only [List.forall_mem_cons, LintConfig.readOwn]
    rw [show emptied.disk.readText ⟨"/a/lintfix.json"⟩ = nested.disk.readText _ from rfl,
      show emptied.disk.readText ⟨"/lintfix.json"⟩ = nested.disk.readText _ from rfl]
    exact ⟨rfl, rfl, List.forall_mem_nil _⟩
  intro source hsource p q hp hq file hfile place hat
  rw [source.file?_eq rewrites_emptied] at hp
  have hparents : ∀ own, LintConfig.readOwn emptied.disk p = .ok own → own.parents p = [] := by
    intro own hown
    rcases hfound source hsource p hp with rfl | rfl
    · rw [hsame _ List.mem_cons_self] at hown
      obtain rfl := Except.ok.inj (hown.symm.trans readOwn_nested.1)
      rfl
    · obtain ⟨e, he⟩ := readOwn_nested.2
      rw [hsame _ (List.mem_cons_of_mem _ (List.mem_singleton_self _))] at hown
      cases hown.symm.trans he
  obtain rfl := LintConfig.eq_of_reads hparents hq
  rw [rewrites_emptied.at_iff] at hat ⊢
  exact readsNone_nested hshort hfound source hsource _ _ hp (.self List.not_mem_nil) file hfile
    place hat

theorem file?_emptied_first {p : Path}
    (hp : (ConfigSource.nearest ⟨"/a/x.ts"⟩).file? nested.disk = some p) :
    p = ⟨"/a/lintfix.json"⟩ ∨ p = ⟨"/lintfix.json"⟩ := by
  have hfound : (ConfigSource.nearest ⟨"/a/x.ts"⟩).file? nested.disk =
      some ⟨"/a/lintfix.json"⟩ := by decide
  exact .inl (Option.some.inj (hp.symm.trans hfound))

/-- The configuration of a file is not read from the first one. -/
theorem apart_emptied {file : Path} (hfound : ∀ p,
    (ConfigSource.nearest file).file? nested.disk = some p →
      p = ⟨"/a/lintfix.json"⟩ ∨ p = ⟨"/lintfix.json"⟩) :
    ∀ p, (ConfigSource.nearest file).file? nested.disk = some p →
      LintConfig.Apart nested.disk (nested.disk.At ⟨"/a/x.ts"⟩) [] p := by
  have hreads : ReadsNone nested.disk [.load (.nearest file)] [⟨"/a/x.ts"⟩, secondFile 0] := by
    refine readsNone_nested (by decide) fun source hsource p hp => ?_
    cases List.mem_singleton.1 hsource
    exact hfound p hp
  exact fun p hp q hq place hat hat' =>
    hreads _ (List.mem_singleton_self _) p q hp hq _ List.mem_cons_self place hat' hat

theorem load_emptied_first : ∃ c, (Ruleset.load [] emptied.disk
    (.nearest ⟨"/a/x.ts"⟩)).result = .ok c ∧ c.active = [] := by
  obtain ⟨c, hload, hactive⟩ := load_nested_first
  obtain ⟨c', hload', halike⟩ := Ruleset.exists_load_alike (.refl _) rewrites_emptied
    (apart_emptied fun _ => file?_emptied_first) (.inl rfl) hload
  exact ⟨c', hload', halike.active_eq ▸ hactive⟩

theorem load_emptied_second {more : ℕ} (hlong : 4096 ≤ more + 15)
    (hshort : (secondFile more).isShort) : ∃ e, (Ruleset.load [] emptied.disk
      (.nearest (secondFile more))).result = .error e := by
  cases hload : (Ruleset.load [] emptied.disk (.nearest (secondFile more))).result with
  | error e => exact ⟨e, rfl⟩
  | ok c =>
    have hload' := Ruleset.load_of_rewritten hload (apart_emptied fun p hp => file?_nested hlong
      hshort (List.mem_cons_of_mem _ (List.mem_singleton_self _)) hp) rewrites_emptied
    obtain ⟨e, herror⟩ := load_nested_second hlong hshort
    cases hload'.symm.trans herror

theorem atPlaces_emptied {more : ℕ} (hshort : (secondFile more).isShort) :
    AtPlaces [⟨"/a/x.ts"⟩, secondFile more] emptied.disk where
  isFile file hfile := rewrites_emptied.isFile_eq file ▸ isFile_nested hshort file hfile
  apart := (atPlaces_nested hshort).apart.imp fun hpq place hp hq =>
    hpq place (rewrites_emptied.at_iff.1 hp) (rewrites_emptied.at_iff.1 hq)

theorem exists_textToLint_emptied {more : ℕ} (hshort : (secondFile more).isShort) :
    ∀ file ∈ [⟨"/a/x.ts"⟩, secondFile more], ∃ text,
      textToLint emptied.disk none file = .ok text := by
  have hapart : ∀ place, nested.disk.At (secondFile more) place →
      ¬nested.disk.At ⟨"/a/x.ts"⟩ place := fun place hat hat' =>
    (List.pairwise_pair.1 (atPlaces_nested hshort).apart) place hat' hat
  have hsecond := exists_textToLint_nested hshort _
    (List.mem_cons_of_mem _ (List.mem_singleton_self _))
  rw [← textToLint_congr (rewrites_emptied.readText_eq hapart)] at hsecond
  simp only [List.forall_mem_cons]
  exact ⟨⟨none, rfl⟩, hsecond, List.forall_mem_nil _⟩

/-- A run comes to the end of the folder, if the empty file is the first one. -/
theorem lintAll_emptied {options : TaskOptions} {rest : List Path}
    (hsource : Engine.sourceFor options ⟨"/"⟩ ⟨"/a/x.ts"⟩ = .nearest ⟨"/a/x.ts"⟩)
    (hruns : folderRuns (⟨"/a/x.ts"⟩ :: rest) = [⟨"/a/x.ts"⟩ :: rest])
    (htext : ∀ file ∈ ⟨"/a/x.ts"⟩ :: rest, ∃ text, textToLint emptied.disk none file = .ok text) :
    (ruleEngine.lintAll options ⟨"/"⟩ none (⟨"/a/x.ts"⟩ :: rest)
      (ruleEngine.prepared options ⟨"/"⟩ emptied)).1 = .ok 1 := by
  obtain ⟨c, hload, hactive⟩ := load_emptied_first
  obtain ⟨told, hall⟩ := lintAll_of_load (w := ruleEngine.prepared options ⟨"/"⟩ emptied) none
    hruns (hsource ▸ hload)
  have hdone := inOrder_of_active_nil
    (w := { ruleEngine.prepared options ⟨"/"⟩ emptied with trace := told }) hactive htext
  rw [hall]
  dsimp only
  rw [hdone]
  rfl

/-- The empty file is skipped, if the configuration beside it is found for the other one, or that
    above. -/
theorem skipsRest_emptied {more : ℕ} (hshort : (secondFile more).isShort)
    (hfound : ∀ p, (ConfigSource.nearest (secondFile more)).file? nested.disk = some p →
      p = ⟨"/a/lintfix.json"⟩ ∨ p = ⟨"/lintfix.json"⟩) :
    SkipsRest (nestedTask more) ⟨"/"⟩ emptied fun file => file ≠ ⟨"/a/x.ts"⟩ where
  includes := rfl
  places := (given_nestedTask more).1 ▸ atPlaces_emptied hshort
  reads := by
    rw [(given_nestedTask more).1]
    refine readsNone_emptied hshort fun source hsource p hp => ?_
    obtain ⟨file, hfile, rfl⟩ := exists_of_load_mem hsource
    rcases List.mem_pair.1 hfile with rfl | rfl
    · exact file?_emptied_first hp
    · exact hfound p hp
  finishes := by
    refine ⟨_, 1, FileSet.resolve_given rfl (.inl rfl) _ _, ?_⟩
    rw [(given_nestedTask more).1]
    exact lintAll_emptied rfl (folderRuns_nested more) (exists_textToLint_emptied hshort)
  skipped file _ hkeep := by
    obtain rfl := not_not.1 (of_decide_eq_false hkeep)
    exact .inl rfl

/-- The task to lint the empty file, with a project that is not there. -/
def projectTask : TaskOptions :=
  { explicitFiles := some (.one "/a/x.ts"), compilerConfigPath := some ⟨"project.json"⟩ }

theorem given_projectTask : projectTask.given ⟨"/"⟩ = [⟨"/a/x.ts"⟩] := by decide

theorem skipsRest_projectTask : SkipsRest projectTask ⟨"/"⟩ emptied fun _ => false where
  includes := rfl
  places := given_projectTask ▸
    (atPlaces_emptied (by decide : (secondFile 0).isShort)).sublist
      ((List.nil_sublist _).cons_cons _)
  reads := by
    rw [given_projectTask]
    intro source hsource p q hp hq file hfile
    refine readsNone_emptied (by decide : (secondFile 0).isShort) (fun source hsource p hp => ?_)
      source hsource p q hp hq file (List.mem_singleton.1 hfile ▸ List.mem_cons_self)
    obtain ⟨file, hfile, rfl⟩ := exists_of_load_mem hsource
    obtain rfl := List.mem_singleton.1 hfile
    exact file?_emptied_first hp
  finishes := by
    refine ⟨_, 1, FileSet.resolve_given rfl (.inr (by simp [projectTask, TaskOptions.files,
      OneOrMany.toList])) _ _, ?_⟩
    rw [given_projectTask]
    refine lintAll_emptied rfl (folderRuns_singleton _) fun file hfile => ?_
    obtain rfl := List.mem_singleton.1 hfile
    exact ⟨none, rfl⟩
  skipped file hfile _ := by
    rw [given_projectTask, List.mem_singleton] at hfile
    subst hfile
    exact .inl rfl

/-- A file that is skipped matters in two ways. The configuration of its folder is loaded for it,
    and none can be loaded for the file behind it, where the path to that one is too long to look
    one up. And as long as it is given, the members of a project are not linted. -/
theorem skipped_matters :
    (let options := nestedTask 4084
    let keep := fun file : Path => decide (file ≠ ⟨"/a/x.ts"⟩)
    (SkipsRest options ⟨"/"⟩ emptied keep ∧ options.compilerConfigPath = none) ∧
      ¬ruleEngine.Finishes (options.keeping ⟨"/"⟩ keep) ⟨"/"⟩ emptied) ∧
    (SkipsRest projectTask ⟨"/"⟩ emptied (fun _ => false) ∧
      SpelledAlike projectTask ⟨"/"⟩ emptied.disk (projectTask.given ⟨"/"⟩)) ∧
    ¬ruleEngine.Finishes (projectTask.keeping ⟨"/"⟩ fun _ => false) ⟨"/"⟩ emptied := by
  have hshort : (secondFile 4084).isShort := by
    rw [Path.isShort, secondFile, Path.size_spelled 4084 (by simp)]
    decide
  have hfound := fun p => file?_nested (p := p) (by decide) hshort
    (List.mem_cons_of_mem _ (List.mem_singleton_self _))
  refine ⟨⟨⟨skipsRest_emptied hshort hfound, rfl⟩, ?_⟩, ⟨skipsRest_projectTask, ?_⟩, ?_⟩
  · -- Without the file in front a configuration has to be loaded for the one behind it.
    rintro ⟨set, n, hset, hall⟩
    have hincludes : ((nestedTask 4084).keeping ⟨"/"⟩ fun file =>
      decide (file ≠ ⟨"/a/x.ts"⟩)).includes = [] := rfl
    obtain rfl := Except.ok.inj <|
      (FileSet.resolve_given hincludes (.inl rfl) emptied.disk ⟨"/"⟩).symm.trans hset
    have hne : secondFile 4084 ≠ ⟨"/a/x.ts"⟩ := by
      have hnodup := nodup_of_apart (isFile_nested hshort) (atPlaces_nested hshort).apart
      simpa [eq_comm] using hnodup
    obtain ⟨e, herror⟩ := load_emptied_second (by decide) hshort
    rw [TaskOptions.given_keeping, (given_nestedTask 4084).1] at hall
    simp only [hne, ne_eq, not_true, not_false_eq_true, decide_true, decide_false,
      List.filter_cons_of_pos, List.filter_cons_of_neg, List.filter_nil, Bool.false_eq_true] at hall
    cases hall.symm.trans (lintAll_of_load_error none (folderRuns_singleton _) herror)
  · rw [given_projectTask]
    exact spelledAlike_of_folder (List.forall_mem_singleton.2 rfl)
  · -- Without any file the project is asked for, which is not there.
    rintro ⟨set, n, hset, -⟩
    have hmissing : (FileSet.resolve emptied.disk (projectTask.keeping ⟨"/"⟩ fun _ => false)
        ⟨"/"⟩).result = .error (.missingProjectFile ⟨"/project.json"⟩) := rfl
    cases hmissing.symm.trans hset

end RuleEngine

end Autofix
