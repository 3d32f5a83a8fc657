import Autofix.Proofs.Run.Aside

/-!
# Outcomes and messages of a run

A run of the rule engine hands over one message at most, and only when all files have been linted
(`RuleEngine.run_outcome`). It fails because of what has been found only in its report: what comes
before it, from finding the files to linting the last one, has errors of other kinds
(`RuleEngine.reach_ne`). If the files cannot be found, no engine is asked for anything.
-/

namespace Autofix

section

variable {ε ε' α β : Type} {x : Except ε α} {e : ε'}

/-- Two steps come to an error only if one of them does. -/
theorem bind_ne_error {e : ε} {f : α → Except ε β} (hx : x ≠ .error e)
    (hf : ∀ a, f a ≠ .error e) : (x >>= f) ≠ .error e := by
  rcases x with e' | a
  · intro h
    cases h
    exact hx rfl
  · exact hf a

theorem mapError_ne_error {f : ε → ε'} (hf : ∀ e', f e' ≠ e) : x.mapError f ≠ .error e := by
  rcases x with e' | a <;> intro h <;> cases h
  exact hf e' rfl

end

/-! ### Finding the files -/

namespace Project

variable (d : Disk)

theorem matched_ne (path : Path) (f : ProjectFile) (named : List Path) :
    (matched d path f named).result ≠ .error .lintErrorsFound := by
  rw [matched]
  split_ifs
  · exact fun h => by cases h
  · simp only [Traced.bind_result, Traced.ofExcept, Traced.note_result, Traced.pure_result]
    refine bind_ne_error (mapError_ne_error fun e h => by cases h) fun includes => ?_
    refine bind_ne_error (mapError_ne_error fun e h => by cases h) fun excludes => ?_
    refine bind_ne_error (mapError_ne_error fun e h => by cases h) fun entries => ?_
    exact fun h => by cases h

theorem readListed_ne (files : List Path) :
    (readListed d files).result ≠ .error .lintErrorsFound := by
  induction files with
  | nil => exact fun h => by cases h
  | cons file files ih =>
    simp only [readListed, Traced.bind_result, Traced.ofExcept, Traced.pure_result]
    refine bind_ne_error (mapError_ne_error fun e h => by cases h) fun text => ?_
    exact bind_ne_error ih fun texts h => by cases h

theorem readMatched_ne (files : List Path) :
    (readMatched d files).result ≠ .error .lintErrorsFound := by
  induction files with
  | nil => exact fun h => by cases h
  | cons file files ih =>
    rw [readMatched]
    split
    · simp only [Traced.bind_result, Traced.pure_result]
      exact bind_ne_error ih fun texts h => by cases h
    · simp only [Traced.bind_result, Traced.note_result]
      exact bind_ne_error (fun h => by cases h) fun _ => ih
    · exact fun h => by cases h

theorem load_ne (path : Path) : (load d path).result ≠ .error .lintErrorsFound := by
  simp only [load, Traced.bind_result, Traced.ofExcept, Traced.note_result, Traced.pure_result]
  refine bind_ne_error (mapError_ne_error fun e h => by cases h) fun text => ?_
  refine bind_ne_error (mapError_ne_error fun e h => by cases h) fun f => ?_
  refine bind_ne_error (matched_ne d path f _) fun found => ?_
  refine bind_ne_error (readListed_ne d _) fun namedTexts => ?_
  refine bind_ne_error (readMatched_ne d found) fun foundTexts => ?_
  exact bind_ne_error (fun h => by cases h) fun _ h => by cases h

end Project

namespace FileSet

variable (d : Disk) (options : TaskOptions) (root : Path)

theorem named_ne : (named d options root).result ≠ .error .lintErrorsFound := by
  rw [named]
  cases options.compilerConfigPath with
  | none => exact fun h => by cases h
  | some projectPath =>
    dsimp only
    split_ifs
    · simp only [Traced.bind_result, Traced.pure_result]
      exact bind_ne_error (Project.load_ne d _) fun project h => by cases h
    · exact fun h => by cases h
    · exact fun h => by cases h

theorem included_ne (patterns : List String) :
    (included d patterns root).result ≠ .error .lintErrorsFound := by
  rw [included]
  split_ifs
  · exact fun h => by cases h
  · simp only [Traced.bind_result, Traced.ofExcept, Traced.note_result, Traced.pure_result]
    refine bind_ne_error ?_ fun matcher => ?_
    · rw [Include.Matcher.ofPatterns?]
      split <;> exact fun h => by cases h
    · refine bind_ne_error (fun h => by cases h) fun _ => ?_
      refine bind_ne_error (mapError_ne_error fun e h => by cases h) fun all => ?_
      exact bind_ne_error (fun h => by cases h) fun _ h => by cases h

theorem resolve_ne : (resolve d options root).result ≠ .error .lintErrorsFound := by
  simp only [resolve, Traced.bind_result, Traced.note_result, Traced.pure_result]
  refine bind_ne_error (named_ne d options root) fun first => ?_
  refine bind_ne_error (included_ne d root options.includes) fun more => ?_
  exact bind_ne_error (fun h => by cases h) fun _ h => by cases h

end FileSet

/-! ### Linting them -/

namespace Ruleset

variable (registry : Registry) (d : Disk)

theorem pick_ne (settings : List (String × RuleSetting)) :
    (pick registry settings).result ≠ .error .lintErrorsFound := by
  induction settings with
  | nil => exact fun h => by cases h
  | cons setting settings ih =>
    obtain ⟨name, setting⟩ := setting
    simp only [pick, Traced.bind_result, Traced.ofExcept]
    refine bind_ne_error (mapError_ne_error fun e h => by cases h) fun pattern => ?_
    split_ifs
    · simp only [Traced.bind_result, Traced.note_result]
      exact bind_ne_error (fun h => by cases h) fun _ => ih
    · simp only [Traced.bind_result, Traced.pure_result]
      exact bind_ne_error ih fun active h => by cases h

theorem read_ne (source : ConfigSource) : (read d source).result ≠ .error .lintErrorsFound := by
  cases source with
  | file path root =>
    rw [read]
    split_ifs
    · exact mapError_ne_error fun e h => by cases h
    · exact fun h => by cases h
  | search path =>
    rw [read]
    split
    · exact mapError_ne_error fun e h => by cases h
    · exact fun h => by cases h
  | nearest path =>
    rw [read]
    split
    · exact mapError_ne_error fun e h => by cases h
    · simp only [Traced.bind_result, Traced.note_result, Traced.pure_result]
      exact bind_ne_error (fun h => by cases h) fun _ h => by cases h

theorem load_ne (source : ConfigSource) :
    (load registry d source).result ≠ .error .lintErrorsFound := by
  simp only [load, ofConfig, Traced.bind_result, Traced.note_result, Traced.pure_result]
  refine bind_ne_error (read_ne d source) fun config => ?_
  refine bind_ne_error (pick_ne registry config.rulesOn) fun active => ?_
  exact bind_ne_error (fun h => by cases h) fun _ h => by cases h

end Ruleset

theorem textToLint_ne (d : Disk) (project : Option Project) (file : Path) :
    textToLint d project file ≠ .error .lintErrorsFound := by
  rcases project with _ | project
  · exact bind_ne_error (mapError_ne_error fun e h => by cases h) fun text h => by cases h
  · simp only [textToLint]
    split <;> exact fun h => by cases h

/-- One after the other, parts come to an error only if one of them does. -/
theorem Transcript.inOrder_ne {σ κ : Type} {parts : List (World σ → Transcript σ κ)}
    {e : LintError} (h : ∀ part ∈ parts, ∀ w, (part w).outcome ≠ .error e) (w : World σ) :
    (inOrder parts w).outcome ≠ .error e := by
  induction parts generalizing w with
  | nil => exact fun h => by cases h
  | cons part parts ih =>
    rw [List.forall_mem_cons] at h
    rw [inOrder, andThen]
    cases hpart : (part w).outcome with
    | error e' =>
      intro he
      cases he
      exact h.1 w hpart
    | ok => exact ih h.2 _

namespace RuleEngine

variable (options : TaskOptions) (root : Path) (project : Option Project)

theorem lint_ne (path : Path) (content : String) (c : Ruleset) (w : World RuleEngine) :
    (lint path content c w).1 ≠ .error .lintErrorsFound := by
  rcases Bool.eq_false_or_eq_true (c.config.excludes path) with hexcluded | hkeep
  · rw [lint, if_pos hexcluded]
    exact fun h => by cases h
  · rw [lint_apply hkeep, lintText_apply]
    dsimp only
    split_ifs
    · rcases Fixing.apply content (c.check w.engine.registry path content) with _ | fixed
      · exact fun h => by cases h
      · dsimp only
        split_ifs
        · rcases w.disk.writeText path fixed.content with e | d <;> exact fun h => by cases h
        · exact fun h => by cases h
    · exact fun h => by cases h

theorem fileTranscript_ne (c : Ruleset) (file : Path) (w : World RuleEngine) :
    (ruleEngine.fileTranscript project c file w).outcome ≠ .error .lintErrorsFound := by
  rw [Engine.fileTranscript]
  rcases htext : textToLint w.disk project file with e | _ | text
  · intro h
    cases h
    exact textToLint_ne w.disk project file htext
  · exact fun h => by cases h
  · exact lint_ne file text c (w.noted _)

theorem folderTranscript_ne (run : List Path) (w : World RuleEngine) :
    (ruleEngine.folderTranscript options root project run w).outcome ≠
      .error .lintErrorsFound := by
  rcases run with _ | ⟨first, rest⟩
  · exact fun h => by cases h
  · rcases hload : (Ruleset.load w.engine.registry w.disk
      (Engine.sourceFor options root first)).result with e | c
    · obtain ⟨told, hfolder⟩ := folderTranscript_of_load_error project hload
      rw [hfolder]
      intro h
      cases h
      exact Ruleset.load_ne _ _ _ hload
    · obtain ⟨told, hfolder⟩ := folderTranscript_of_load project rest hload
      rw [hfolder, Transcript.outcome_andThen rfl]
      refine Transcript.inOrder_ne (fun part hpart w => ?_) _
      obtain ⟨file, -, rfl⟩ := List.mem_map.1 hpart
      exact fileTranscript_ne project c file w

theorem lintAll_ne (files : List Path) (w : World RuleEngine) :
    (ruleEngine.lintAll options root project files w).1 ≠ .error .lintErrorsFound := by
  have hall : ruleEngine.lintAll options root project files w = _ :=
    ruleEngine.lintAll_of_logs options root project ruleEngine.logs_self files w []
  have hfolders : (Transcript.inOrder ((folderRuns files).map
      (ruleEngine.folderTranscript options root project)) w).outcome ≠ .error .lintErrorsFound := by
    refine Transcript.inOrder_ne (fun part hpart w => ?_) w
    obtain ⟨run, -, rfl⟩ := List.mem_map.1 hpart
    exact folderTranscript_ne options root project run w
  rw [hall, Engine.transcript]
  dsimp only
  generalize (Transcript.inOrder _ w).outcome = outcome at hfolders ⊢
  rcases outcome with e | _
  · intro h
    cases h
    exact hfolders rfl
  · exact fun h => by cases h

/-- Nothing that comes before the report fails because of what has been found. -/
theorem reach_ne (w : World RuleEngine) :
    (ruleEngine.reach options root w).1 ≠ .error .lintErrorsFound := by
  rcases hset : (FileSet.resolve w.disk options root).result with e | set
  · rw [Engine.reach_of_resolve_error hset]
    intro h
    cases h
    exact FileSet.resolve_ne _ _ _ hset
  · rw [Engine.reach_of_resolve hset]
    have hall := lintAll_ne options root set.project set.files
      (ruleEngine.prepared options root w)
    generalize ruleEngine.lintAll options root set.project set.files
      (ruleEngine.prepared options root w) = linted at hall ⊢
    rcases linted with ⟨e | n, after⟩
    · intro h
      cases h
      exact hall rfl
    · exact fun h => by cases h

/-! ### The whole run -/

variable {options root}

/-- A run fails in its report because of what has been found, if the report can be made. -/
theorem outcomeFor_eq_iff {result : LintResult} :
    outcomeFor options result = .error .lintErrorsFound ↔
      (options.silent ∨ (Format.ofName? options.format).isSome) ∧ options.ignoreErrors = false ∧
        ∃ x ∈ result.failures, x.severity = .error := by
  rw [outcomeFor, ← hasErrors_iff]
  cases options.silent <;> cases hformat : Format.ofName? options.format <;>
    cases options.ignoreErrors <;> cases result.hasErrors <;> simp

/-- Where a result is reported, the outcome is decided by what has been found. -/
theorem outcomeFor_of_reported? {result : LintResult} {text : String}
    (h : reported? options result = some text) :
    outcomeFor options result = .ok () ∨ outcomeFor options result = .error .lintErrorsFound := by
  obtain ⟨-, format, hformat, -⟩ := reported?_eq_some_iff.1 h
  rw [outcomeFor, hformat]
  simp only [Option.isNone_some, Bool.and_false, Bool.false_eq_true, if_false]
  split_ifs
  · exact .inr rfl
  · exact .inl rfl

variable (options root)

/-- A run hands over at most one message: what the requested format makes of all that has been
    recorded, if the options do not say to be silent and all files have been linted; the outcome is
    then decided by what has been found. If the files cannot be found, no engine is asked for
    anything, and only the trace changes. And a run fails because of what has been found exactly if
    all files have been linted, the format is known or not asked for, errors are not ignored and one
    has been recorded. -/
theorem run_outcome (w : World RuleEngine) :
    let (outcome, after) := ruleEngine.run options root w
    (∃ message : Option String, after.messages = w.messages ++ message.toList ∧
      (message.isSome → outcome = .ok () ∨ outcome = .error .lintErrorsFound) ∧
      ∀ text, message = some text ↔ ruleEngine.Finishes options root w ∧ options.silent = false ∧
        ∃ format, Format.ofName? options.format = some format ∧
          text = format.render after.engine.failures after.engine.fixes ∧ text ≠ "") ∧
    (∀ e, (FileSet.resolve w.disk options root).result = .error e →
      ∀ {σ κ : Type} (engine : Engine σ κ) (v : World σ), v.disk = w.disk →
        engine.run options root v = (.error e,
          { v with trace := v.trace ++ (FileSet.resolve w.disk options root).trace })) ∧
    (outcome = .error .lintErrorsFound ↔ ruleEngine.Finishes options root w ∧
      (options.silent ∨ (Format.ofName? options.format).isSome) ∧ options.ignoreErrors = false ∧
      ∃ x ∈ after.engine.failures, x.severity = .error) := by
  -- Without files no engine is asked, whichever it is.
  have hunasked : ∀ e, (FileSet.resolve w.disk options root).result = .error e →
      ∀ {σ κ : Type} (engine : Engine σ κ) (v : World σ), v.disk = w.disk →
        engine.run options root v = (.error e,
          { v with trace := v.trace ++ (FileSet.resolve w.disk options root).trace }) := by
    intro e hset σ κ engine v hdisk
    rw [← hdisk] at hset ⊢
    rw [Engine.run_apply, Engine.reach_of_resolve_error hset]
  have hmessages := messages_reach options root w
  have hne := reach_ne options root w
  rw [Engine.run_apply, ← Engine.reach_eq_ok_iff]
  generalize ruleEngine.reach options root w = reached at hmessages hne ⊢
  obtain ⟨e | _, after⟩ := reached
  · refine ⟨⟨none, ?_, (fun h => by cases h), fun text => ?_⟩, hunasked, ?_⟩
    · rw [Option.toList_none, List.append_nil]
      exact hmessages
    · exact iff_of_false (fun h => by cases h) fun h => by cases h.1
    · exact iff_of_false hne fun h => by cases h.1
  · dsimp only at hmessages ⊢
    rw [report_eq]
    refine ⟨⟨reported? options after.engine.result, ?_, fun h => ?_, fun text => ?_⟩, hunasked, ?_⟩
    · dsimp only
      rw [hmessages]
    · obtain ⟨text, htext⟩ := Option.isSome_iff_exists.1 h
      exact outcomeFor_of_reported? htext
    · exact reported?_eq_some_iff.trans (and_iff_right rfl).symm
    · exact outcomeFor_eq_iff.trans (and_iff_right rfl).symm

end RuleEngine

end Autofix
