import Autofix.Proofs.Run.Linted

/-!
# Runs of the same files in another order

What a run leaves does not depend on the order of the files that are given to it
(`RuleEngine.run_reordered`): it comes to its end in any order or in none, every file holds the same
text, the same is recorded for each file, and the outcome is the same. Each file has to be at a
place of its own, and none may be read as a configuration, so that what becomes of it is settled by
the start (`RuleEngine.Settled.reordered`). A folder has to be written in the same way for all of
its files, unless all paths that are looked up are short
(`RuleEngine.reordered_fails_on_long_path`).
-/

namespace Autofix

namespace Path

theorem isAbsolute_spelled (more : ℕ) {names : List (List Char)} (hne : names ≠ []) :
    (spelled more names).isAbsolute := by
  obtain ⟨part, rest, hrest⟩ : ∃ part rest, List.replicate more [] ++ names = part :: rest :=
    List.exists_cons_of_ne_nil (List.append_ne_nil_of_right_ne_nil _ hne)
  rw [isAbsolute, spelled, String.toList_ofList, List.replicate_succ, List.cons_append, hrest]
  rfl

end Path

namespace TaskOptions

/-- The given files, as paths. -/
def given (options : TaskOptions) (root : Path) : List Path :=
  options.files.map fun file => root.join ⟨file⟩

/-- The options with other files. -/
def withFiles (options : TaskOptions) (files : List String) : TaskOptions :=
  { options with explicitFiles := some (.many files) }

end TaskOptions

/-- Without include patterns a run lints the files that are given, if there are any. -/
theorem FileSet.resolve_given {options : TaskOptions} (hincludes : options.includes = [])
    (hgiven : options.compilerConfigPath = none ∨ options.files ≠ []) (d : Disk) (root : Path) :
    (FileSet.resolve d options root).result = .ok ⟨options.given root, none⟩ := by
  have hnamed : named d options root = pure ⟨options.given root, none⟩ := by
    rw [named]
    cases hproject : options.compilerConfigPath with
    | none => rfl
    | some project =>
      have hne : options.files.isEmpty = false := by
        rcases hgiven with hnone | hne
        · cases hproject.symm.trans hnone
        · simpa using hne
      simp only [hne, Bool.false_eq_true, if_false]
      rfl
  simp only [resolve, hnamed, included, hincludes, List.isEmpty_nil, if_true, Traced.bind_result,
    Traced.pure_result, Traced.note_result, bind_eq_ok_iff]
  exact ⟨_, rfl, [], rfl, (), trivial, by rw [List.append_nil]⟩

namespace RuleEngine

variable {start w after after' : World RuleEngine} {rules : Path → Ruleset}
  {result : Path → Linted} {files files' : List Path} {options : TaskOptions} {root : Path}
  {project : Option Project}

/-! ### What does not depend on the order -/

theorem AtPlaces.perm {d : Disk} (h : AtPlaces files d) (hperm : files'.Perm files) :
    AtPlaces files' d where
  isFile file hfile := h.isFile file (hperm.mem_iff.1 hfile)
  apart := (hperm.pairwise_iff fun hpq place hq hp => hpq place hp hq).2 h.apart

/-- Files in one folder have it written in the same way, or all paths are short that are looked up
    for them. -/
def SpelledAlike (options : TaskOptions) (root : Path) (d : Disk) (files : List Path) : Prop :=
  ∀ file ∈ files, ∀ other ∈ files, SameFolder file other →
    file.folder = other.folder ∨ (Engine.sourceFor options root other).LooksShort d

theorem spelledAlike_of_folder {d : Disk} {folder : Path}
    (h : ∀ file ∈ files, file.folder = folder) : SpelledAlike options root d files := fun file hfile other hother _ =>
  .inl ((h file hfile).trans (h other hother).symm)

/-- For any file in the same folder rules are loaded that are alike, whatever has been written. -/
theorem Settled.exists_load (h : Settled options root project files start rules result)
    (hloaded : LoadedFirst options root start rules (folderRuns files))
    (hapart : ConfiguredApart options root start.disk
      (fun place => ∃ file ∈ files, start.disk.At file place) (folderRuns files))
    (hspelled : SpelledAlike options root start.disk files) {file other : Path}
    (hfile : file ∈ files) (hother : other ∈ files) (hsame : SameFolder file other) {d : Disk}
    (hd : start.disk.Rewrites (fun place => ∃ file ∈ files, start.disk.At file place) d) :
    ∃ c, (Ruleset.load start.engine.registry d
      (Engine.sourceFor options root other)).result = .ok c ∧ c.Alike (rules file) := by
  obtain ⟨hflatten, -, hfolder, -⟩ := folderRuns_eq_iff.1 (rfl : folderRuns files = _)
  obtain ⟨run, hrun, first, hhead, hfile⟩ := exists_folderRun hfile
  -- The rules of the file have been loaded for the first file of its part, in the same folder.
  have hmem := List.mem_of_mem_head? hhead
  have hfirst : first ∈ files := by
    rw [hflatten]
    exact List.mem_flatten_of_mem hrun hmem
  have hsame' : SameFolder first other :=
    (hfolder run hrun first hmem file hfile).trans hsame
  have htogether : (Engine.sourceFor options root first).Together start.disk
      (Engine.sourceFor options root other) := by
    refine together_of_sameFolder (h.places.isFile first hfirst) (h.places.isFile other hother)
      hsame' ?_
    rcases hspelled first hfirst other hother hsame' with heq | hshort
    · exact .inl heq
    · exact (hspelled other hother first hfirst hsame'.symm).imp Eq.symm fun hshort' =>
        ⟨hshort', hshort⟩
  obtain ⟨c, hload, halike⟩ := Ruleset.exists_load_alike (.refl _) hd (hapart run hrun first hhead)
    htogether (hloaded run hrun first hhead file hfile)
  exact ⟨c, hload, halike.symm⟩

/-- What is settled for files is settled for some of them, in any order. -/
theorem Settled.selected (h : Settled options root project files start rules result)
    (hloaded : LoadedFirst options root start rules (folderRuns files))
    (hapart : ConfiguredApart options root start.disk
      (fun place => ∃ file ∈ files, start.disk.At file place) (folderRuns files))
    (hspelled : SpelledAlike options root start.disk files) (hplaces : AtPlaces files' start.disk)
    (hmem : ∀ file ∈ files', file ∈ files) :
    Settled options root project files' start rules result where
  places := hplaces
  load run hrun first hfirst d hd := by
    obtain ⟨hflatten, -, hfolder, -⟩ := folderRuns_eq_iff.1 (rfl : folderRuns files' = _)
    have hmem' : ∀ file ∈ run, file ∈ files := fun file hfile => hmem file <| by
      rw [hflatten]
      exact List.mem_flatten_of_mem hrun hfile
    have hd' : start.disk.Rewrites (fun place => ∃ file ∈ files, start.disk.At file place) d :=
      hd.mono fun place ⟨file, hfile, hat⟩ => ⟨file, hmem file hfile, hat⟩
    have hload : ∀ file ∈ run, ∃ c, (Ruleset.load start.engine.registry d
        (Engine.sourceFor options root first)).result = .ok c ∧ c.Alike (rules file) :=
      fun file hfile => h.exists_load hloaded hapart hspelled (hmem' file hfile)
        (hmem' first (List.mem_of_mem_head? hfirst))
        (hfolder run hrun file hfile first (List.mem_of_mem_head? hfirst)) hd'
    -- There is one result of loading, which is alike for each of the files.
    obtain ⟨c, hc, -⟩ := hload first (List.mem_of_mem_head? hfirst)
    refine ⟨c, hc, fun file hfile => ?_⟩
    obtain ⟨c', hc', halike⟩ := hload file hfile
    obtain rfl := Except.ok.inj (hc.symm.trans hc')
    exact halike
  becomes file hfile := h.becomes file (hmem file hfile)

/-- What is settled for files in one order is settled for them in any other one. -/
theorem Settled.reordered (h : Settled options root project files start rules result)
    (hloaded : LoadedFirst options root start rules (folderRuns files))
    (hapart : ConfiguredApart options root start.disk
      (fun place => ∃ file ∈ files, start.disk.At file place) (folderRuns files))
    (hspelled : SpelledAlike options root start.disk files) (hperm : files'.Perm files) :
    Settled options root project files' start rules result :=
  h.selected hloaded hapart hspelled (h.places.perm hperm) fun _ => hperm.mem_iff.1

/-! ### What is left -/

/-- The same texts are left when some of the files are linted, in any order, if nothing has been
    written to the other ones. -/
theorem LintedSince.readText_selected (h : LintedSince start result files after)
    (h' : LintedSince start result files' after') (hmem : ∀ file ∈ files', file ∈ files)
    (hother : ∀ file ∈ files, (result file).written.isSome → file ∈ files') (p : Path) :
    after.disk.readText p = after'.disk.readText p := by
  rcases h'.readText_eq p with ⟨file, hfile, s, hs, ⟨place, hat, hp⟩, hread⟩ | ⟨hnone, hread⟩
  · rw [hread, Disk.readText_eq_of_at (h.rewrites.at_iff.2 hp) (h.rewrites.at_iff.2 hat),
      h.read_eq file (hmem file hfile) s hs]
  · rw [hread, h.rewrites.readText_eq]
    rintro place hp ⟨file, hfile, hsome, hat⟩
    exact hnone file (hother file hfile hsome) hsome place hp hat

/-- Two worlds hold the same: the same text in every file, and the same failures and fixes for each
    file, in the same order, with as many errors and warnings in all. -/
structure HoldSame (w w' : World RuleEngine) : Prop where
  readText_eq : ∀ p, w.disk.readText p = w'.disk.readText p
  failures_eq : ∀ p, w.engine.failures.filter (·.path = p) = w'.engine.failures.filter (·.path = p)
  fixes_eq : ∀ p, w.engine.fixes.filter (·.path = p) = w'.engine.fixes.filter (·.path = p)
  errorCount_eq : w.engine.result.errorCount = w'.engine.result.errorCount
  warningCount_eq : w.engine.result.warningCount = w'.engine.result.warningCount

/-- The same is left, whatever the order in which the files have been linted. -/
theorem Settled.holdSame (hsettled : Settled options root project files start rules result)
    (h : LintedSince start result files after) (h' : LintedSince start result files' after')
    (hperm : files'.Perm files) : HoldSame after after' := by
  have hnodup := nodup_of_apart hsettled.places.isFile hsettled.places.apart
  have hnodup' := hperm.nodup_iff.2 hnodup
  have hcount : ∀ f : Path → List Diagnostic, (files.flatMap f).Perm (files'.flatMap f) :=
    fun f => (hperm.symm.flatMap_right f)
  -- What is recorded under a path comes of one file, wherever it stands in the order.
  have hfilter : ∀ f : Path → List Diagnostic, (∀ file ∈ files, ∀ x ∈ f file, x.path = file) →
      ∀ p, (files.flatMap f).filter (·.path = p) = (files'.flatMap f).filter (·.path = p) :=
    fun f hf p => by
      rw [filter_flatMap_eq hf hnodup, filter_flatMap_eq
        (fun file hfile => hf file (hperm.mem_iff.1 hfile)) hnodup']
      simp only [hperm.mem_iff]
  have hfailures := hcount fun file => (result file).failures
  have herrors : after.engine.result.errorCount = after'.engine.result.errorCount := by
    rw [h.engine_eq, h'.engine_eq]
    exact (hfailures.append_left _).countP_eq _
  refine ⟨h.readText_selected h' (fun _ => hperm.mem_iff.1) fun _ hfile _ => hperm.mem_iff.2 hfile,
    fun p => ?_, fun p => ?_, herrors, ?_⟩
  · rw [h.engine_eq, h'.engine_eq, recorded, recorded]
    dsimp only
    rw [List.filter_append, List.filter_append,
      hfilter _ (fun file hfile => (hsettled.path_eq hfile).1)]
  · rw [h.engine_eq, h'.engine_eq, recorded, recorded]
    dsimp only
    rw [List.filter_append, List.filter_append,
      hfilter _ (fun file hfile => (hsettled.path_eq hfile).2)]
  · rw [LintResult.warningCount, LintResult.warningCount, herrors, h.engine_eq, h'.engine_eq]
    exact congrArg (· - _) (hfailures.append_left _).length_eq

/-! ### The whole run -/

/-- What a run of given files leaves does not depend on their order. If it comes to the end of its
    files in one order, so it does in any other one; both leave the same text in every file and the
    same failures and fixes for each file, in the same order, with as many errors and warnings; and
    the outcome is the same. -/
theorem run_reordered {given : List String} {n : ℕ} (hperm : given.Perm options.files)
    (hincludes : options.includes = [])
    (hgiven : options.compilerConfigPath = none ∨ options.files ≠ [])
    (hplaces : AtPlaces (options.given root) w.disk)
    (hread : ReadsNone w.disk (ruleEngine.logged.lintAll options root none (options.given root)
      (ruleEngine.prepared options root w).logging).2.engine.2 (options.given root))
    (hspelled : SpelledAlike options root w.disk (options.given root))
    (hall : (ruleEngine.lintAll options root none (options.given root)
      (ruleEngine.prepared options root w)).1 = .ok n) :
    let options' := options.withFiles given
    (∃ n', (ruleEngine.lintAll options' root none (options'.given root)
      (ruleEngine.prepared options' root w)).1 = .ok n') ∧
    let (outcome, after) := ruleEngine.run options root w
    let (outcome', after') := ruleEngine.run options' root w
    outcome = outcome' ∧ HoldSame after after' := by
  have hpaths : ((options.withFiles given).given root).Perm (options.given root) :=
    hperm.map _
  have hgiven' : (options.withFiles given).compilerConfigPath = none ∨
      (options.withFiles given).files ≠ [] := hgiven.imp id fun hne hnil => by
    obtain rfl : given = [] := hnil
    exact hne (List.nil_perm.1 hperm)
  obtain ⟨rules, result, hsettled, hloaded, hapart⟩ :=
    exists_settled (ruleEngine.prepared options root w) hplaces hread hall
  -- Only the trace of the world tells which files are given.
  have hsettled' : Settled (options.withFiles given) root none
      ((options.withFiles given).given root)
      (ruleEngine.prepared (options.withFiles given) root w) rules result := by
    obtain ⟨hplaces', hload', hbecomes'⟩ := hsettled.reordered hloaded hapart hspelled hpaths
    exact ⟨hplaces', hload', hbecomes'⟩
  obtain ⟨_, hlinted', -⟩ := lintAll_of_settled hsettled'
  obtain ⟨hsince, houtcome⟩ :=
    run_of_settled (FileSet.resolve_given hincludes hgiven w.disk root) hsettled
  have hincludes' : (options.withFiles given).includes = [] := hincludes
  obtain ⟨hsince', houtcome'⟩ :=
    run_of_settled (FileSet.resolve_given hincludes' hgiven' w.disk root) hsettled'
  have hsame : HoldSame (ruleEngine.run options root w).2
      (ruleEngine.run (options.withFiles given) root w).2 := hsettled.holdSame hsince
    ⟨hsince'.engine_eq, hsince'.rewrites, hsince'.overwrites, hsince'.read_eq, hsince'.disk_eq⟩
    hpaths
  refine ⟨⟨_, congrArg Prod.fst hlinted'⟩, ?_, hsame⟩
  refine houtcome.trans (Eq.trans ?_ houtcome'.symm)
  exact outcomeFor_congr hsame.errorCount_eq

theorem run_reordered_letters :
    (["c.ts", "a.ts"].Perm lettersTask.files ∧ lettersTask.includes = [] ∧
      lettersTask.compilerConfigPath = none ∧
      AtPlaces (lettersTask.given ⟨"/"⟩) letters.disk ∧
      ReadsNone letters.disk (ruleEngine.logged.lintAll lettersTask ⟨"/"⟩ none
        (lettersTask.given ⟨"/"⟩)
        (ruleEngine.prepared lettersTask ⟨"/"⟩ letters).logging).2.engine.2
          (lettersTask.given ⟨"/"⟩) ∧
      SpelledAlike lettersTask ⟨"/"⟩ letters.disk (lettersTask.given ⟨"/"⟩) ∧
      (ruleEngine.lintAll lettersTask ⟨"/"⟩ none (lettersTask.given ⟨"/"⟩)
        (ruleEngine.prepared lettersTask ⟨"/"⟩ letters)).1 = .ok 1) ∧
    let options' := lettersTask.withFiles ["c.ts", "a.ts"]
    (∃ n', (ruleEngine.lintAll options' ⟨"/"⟩ none (options'.given ⟨"/"⟩)
      (ruleEngine.prepared options' ⟨"/"⟩ letters)).1 = .ok n') ∧
    let (outcome, after) := ruleEngine.run lettersTask ⟨"/"⟩ letters
    let (outcome', after') := ruleEngine.run options' ⟨"/"⟩ letters
    outcome = outcome' ∧ HoldSame after after' := by
  obtain ⟨w', hall, -⟩ := lintAll_letters_both lettersTask none
    (w := ruleEngine.prepared lettersTask ⟨"/"⟩ letters) rfl rfl rfl rfl rfl rfl
  have hperm : ["c.ts", "a.ts"].Perm lettersTask.files := .swap _ _ _
  have hplaces : AtPlaces (lettersTask.given ⟨"/"⟩) letters.disk := lintsOnce_letters.places
  have hread := LintsOnce.readsNone (w := ruleEngine.prepared lettersTask ⟨"/"⟩ letters)
    lintsOnce_letters
  have hspelled : SpelledAlike lettersTask ⟨"/"⟩ letters.disk (lettersTask.given ⟨"/"⟩) := by
    have hfolder : ∀ file ∈ lettersTask.given ⟨"/"⟩, file.folder = ⟨"/"⟩ := by decide
    exact fun file hfile other hother _ =>
      .inl ((hfolder file hfile).trans (hfolder other hother).symm)
  have hdone := congrArg Prod.fst hall
  exact ⟨⟨hperm, rfl, rfl, hplaces, hread, hspelled, hdone⟩,
    run_reordered hperm rfl (.inl rfl) hplaces hread hspelled hdone⟩

/-- The task to lint both files of `nested`, the second one under a path with more separators. -/
def nestedTask (more : ℕ) : TaskOptions :=
  { explicitFiles := some (.many ["/a/x.ts", (secondFile more).text]) }

theorem given_nestedTask (more : ℕ) :
    (nestedTask more).given ⟨"/"⟩ = [⟨"/a/x.ts"⟩, secondFile more] ∧
      ((nestedTask more).withFiles [(secondFile more).text, "/a/x.ts"]).given ⟨"/"⟩ =
        [secondFile more, ⟨"/a/x.ts"⟩] := by
  have hfirst : (Path.mk "/").join ⟨"/a/x.ts"⟩ = ⟨"/a/x.ts"⟩ := by decide
  have hsecond : (Path.mk "/").join ⟨(secondFile more).text⟩ = secondFile more :=
    Path.join_of_isAbsolute (Path.isAbsolute_spelled more (by simp))
  exact ⟨congrArg₂ (fun p q => [p, q]) hfirst hsecond,
    congrArg₂ (fun p q => [q, p]) hfirst hsecond⟩

/-- The files of `nested` are at places of their own. -/
theorem atPlaces_nested {more : ℕ} (hshort : (secondFile more).isShort) :
    AtPlaces [⟨"/a/x.ts"⟩, secondFile more] nested.disk where
  isFile := isFile_nested hshort
  apart := by
    have hstat : nested.disk.stat ⟨"/a/x.ts"⟩ = .ok (["a", "x.ts"], .file (.text "x")) := rfl
    exact List.pairwise_pair.2 fun place =>
      Disk.not_at_of_stat hstat (stat_nested hshort) (by decide)

/-- Where the path to the second file of a folder is so long that no configuration can be looked up
    under it, both files are linted if it comes second, and none if it comes first. -/
theorem reordered_fails_on_long_path :
    let options := nestedTask 4084
    let options' := options.withFiles [(secondFile 4084).text, "/a/x.ts"]
    (options'.files.Perm options.files ∧ options.includes = [] ∧
      options.compilerConfigPath = none ∧ AtPlaces (options.given ⟨"/"⟩) nested.disk ∧
      ReadsNone nested.disk (ruleEngine.logged.lintAll options ⟨"/"⟩ none (options.given ⟨"/"⟩)
        (ruleEngine.prepared options ⟨"/"⟩ nested).logging).2.engine.2 (options.given ⟨"/"⟩)) ∧
    (ruleEngine.lintAll options ⟨"/"⟩ none (options.given ⟨"/"⟩)
      (ruleEngine.prepared options ⟨"/"⟩ nested)).1 = .ok 1 ∧
    ∃ e, (ruleEngine.lintAll options' ⟨"/"⟩ none (options'.given ⟨"/"⟩)
      (ruleEngine.prepared options' ⟨"/"⟩ nested)).1 = .error e := by
  have hshort : (secondFile 4084).isShort := by
    rw [Path.isShort, secondFile, Path.size_spelled 4084 (by simp)]
    decide
  obtain ⟨hgiven, hgiven'⟩ := given_nestedTask 4084
  have hplaces := atPlaces_nested hshort
  have hread : ReadsNone nested.disk (ruleEngine.logged.lintAll (nestedTask 4084) ⟨"/"⟩ none
      [⟨"/a/x.ts"⟩, secondFile 4084] (ruleEngine.prepared (nestedTask 4084) ⟨"/"⟩
        nested).logging).2.engine.2 [⟨"/a/x.ts"⟩, secondFile 4084] := by
    refine readsNone_nested hshort fun source hsource p hp => ?_
    obtain ⟨file, hfile, rfl⟩ := exists_of_load_mem hsource
    exact file?_nested (by decide) hshort hfile hp
  dsimp only
  rw [hgiven, hgiven']
  refine ⟨⟨.swap _ _ _, rfl, rfl, hplaces, hread⟩, ?_, ?_⟩
  · -- In this order the configuration of the first file is kept for the second one.
    obtain ⟨c, hload, hactive⟩ := load_nested_first
    have hload' : (Ruleset.load nested.engine.registry nested.disk
        (Engine.sourceFor (nestedTask 4084) ⟨"/"⟩ ⟨"/a/x.ts"⟩)).result = .ok c := hload
    obtain ⟨told, hall⟩ := lintAll_of_load
      (w := ruleEngine.prepared (nestedTask 4084) ⟨"/"⟩ nested) none (folderRuns_nested 4084) hload'
    have hdone := inOrder_of_active_nil (w := { ruleEngine.prepared
      (nestedTask 4084) ⟨"/"⟩ nested with trace := told }) hactive (exists_textToLint_nested hshort)
    rw [hall]
    dsimp only
    rw [hdone]
    rfl
  · obtain ⟨e, herror⟩ := load_nested_second (by decide) hshort
    exact ⟨e, lintAll_of_load_error none (folderRuns_pair (sameFolder_nested 4084).symm) herror⟩

end RuleEngine

end Autofix
