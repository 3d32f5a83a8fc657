import Autofix.Proofs.Run.Fresh
import Autofix.Proofs.Run.Stages

/-!
# What linting does not look at

Until a run reports, the rule engine looks at nothing that has been recorded before, at no message,
and not at the format that is asked for: with other ones beside it, linting is the same linting
(`RuleEngine.logs_beside`). So two runs whose worlds differ in these only, and whose options differ
in how to report only, make the same calls, and end with the same error at the same point or reach
their reports with the same disk and the same newly recorded (`RuleEngine.reach_follows`). What the
options say about reporting has no influence but on the report (`RuleEngine.run_reporting`).
-/

namespace Autofix

/-- The options with other settings for the report. -/
def TaskOptions.reporting (options : TaskOptions) (format : Option String)
    (silent ignoreErrors : Bool) : TaskOptions :=
  { options with outputFormat := format, silent, ignoreErrors }

/-- What the rule engine has in its world and does not look at when it lints. -/
structure Aside where
  /-- What has been recorded as left before. -/
  failures : List Diagnostic
  /-- What has been recorded as fixed before. -/
  fixes : List Diagnostic
  /-- The name of the report format that is asked for. -/
  format : String
  messages : List String

/-- The world with other things that linting does not look at. What has been recorded in it comes
    after what had been recorded before. -/
def World.beside (w : World RuleEngine) (a : Aside) : World RuleEngine :=
  { w with
    engine :=
      { w.engine with
        options := { w.engine.options with format := a.format }
        failures := a.failures ++ w.engine.failures
        fixes := a.fixes ++ w.engine.fixes }
    messages := a.messages }

section

variable (w : World RuleEngine) (a : Aside)

@[simp] theorem World.beside_disk : (w.beside a).disk = w.disk := rfl

@[simp] theorem World.beside_trace : (w.beside a).trace = w.trace := rfl

@[simp] theorem World.beside_registry : (w.beside a).engine.registry = w.engine.registry := rfl

@[simp] theorem World.beside_fix : (w.beside a).engine.options.fix = w.engine.options.fix := rfl

end

namespace Engine

variable {σ κ : Type} (engine : Engine σ κ) (options : TaskOptions) (root : Path) (w : World σ)

/-- The calls that a run makes to its engine, to load configurations and to lint files. -/
def callsMade : List (Call κ) := (engine.logged.reach options root w.logging).2.engine.2

variable {engine options root w}

theorem callsMade_of_resolve_error {e : LintError}
    (hset : (FileSet.resolve w.disk options root).result = .error e) :
    engine.callsMade options root w = [] := by
  have hreach : engine.logged.reach options root w.logging = _ :=
    reach_of_resolve_error (w := w.logging) hset
  rw [callsMade, hreach]
  rfl

/-- Once the files are known, the calls are those that are made to lint them. -/
theorem callsMade_of_resolve {set : FileSet}
    (hset : (FileSet.resolve w.disk options root).result = .ok set) :
    engine.callsMade options root w =
      (engine.transcript options root set.project set.files
        (engine.prepared options root w)).calls := by
  have hreach : engine.logged.reach options root w.logging = _ :=
    reach_of_resolve (w := w.logging) hset
  have hlogged : engine.logged.lintAll options root set.project set.files
      (engine.logged.prepared options root w.logging) = _ :=
    engine.lintAll_of_logs options root set.project engine.logs_logged set.files
      (engine.prepared options root w) []
  rw [callsMade, hreach, hlogged]
  dsimp only
  cases (engine.transcript options root set.project set.files
    (engine.prepared options root w)).outcome <;> rfl

end Engine

namespace RuleEngine

variable {options : TaskOptions} {root : Path} {project : Option Project} {files : List Path}
  {w w' : World RuleEngine} {failures fixes : List Diagnostic}

/-! ### Linting beside other things -/

/-- What is recorded beside other things comes after them. -/
theorem recorded_beside (w : World RuleEngine) (a : Aside) (failures fixes : List Diagnostic) :
    (w.beside a).engine.recorded failures fixes =
      (World.beside { w with engine := w.engine.recorded failures fixes } a).engine := by
  simp only [World.beside, recorded, List.append_assoc]

theorem lint_beside (a : Aside) (path : Path) (content : String) (c : Ruleset)
    (w : World RuleEngine) :
    lint path content c (w.beside a) = (lint path content c w).map id (·.beside a) := by
  rcases Bool.eq_false_or_eq_true (c.config.excludes path) with hexcluded | hkeep
  · rw [lint, if_pos hexcluded]
    rfl
  · rw [lint_apply hkeep, lint_apply hkeep, lintText_apply, lintText_apply]
    simp only [World.beside_registry, World.beside_fix, World.beside_disk, World.beside_trace,
      recorded_beside]
    split_ifs
    · cases Fixing.apply content (c.check w.engine.registry path content) with
      | none => rfl
      | some fixed =>
        dsimp only
        split_ifs
        · cases w.disk.writeText path fixed.content <;> rfl
        · rfl
    · rfl

/-- Other things that stand beside linting change nothing about it. -/
theorem logs_beside (a : Aside) :
    Engine.Logs ruleEngine ruleEngine fun w _ => w.beside a where
  disk_eq _ _ := rfl
  noted_eq _ _ _ := rfl
  load_eq _ _ _ := rfl
  lint_eq file text config w _ := lint_beside a file text config w

variable (options root project files)

theorem lintAll_aside (a : Aside) (w : World RuleEngine) :
    ruleEngine.lintAll options root project files (w.beside a) =
      (ruleEngine.lintAll options root project files w).map id (·.beside a) := by
  have hbeside : ruleEngine.lintAll options root project files (w.beside a) = _ :=
    ruleEngine.lintAll_of_logs options root project (logs_beside a) files w []
  have hall : ruleEngine.lintAll options root project files w = _ :=
    ruleEngine.lintAll_of_logs options root project ruleEngine.logs_self files w []
  rw [hbeside, hall]
  rfl

theorem calls_transcript_beside (a : Aside) (w : World RuleEngine) :
    (ruleEngine.transcript options root project files (w.beside a)).calls =
      (ruleEngine.transcript options root project files w).calls := by
  -- The calls that are kept beside other things are those of both transcripts.
  have hbeside : ruleEngine.logged.lintAll options root project files (w.beside a).logging = _ :=
    ruleEngine.lintAll_of_logs options root project (logs_beside a).logged files w []
  have hlogged : ruleEngine.logged.lintAll options root project files (w.beside a).logging = _ :=
    ruleEngine.lintAll_of_logs options root project ruleEngine.logs_logged files (w.beside a) []
  exact congrArg (fun linted => linted.2.engine.2) (hlogged.symm.trans hbeside)

variable {options root project files}

/-! ### Runs that differ aside -/

/-- The second world is the first one with these failures and fixes recorded before. The two may
    differ in the settings of the engine and in the messages. -/
structure Follows (failures fixes : List Diagnostic) (w w' : World RuleEngine) : Prop where
  disk_eq : w'.disk = w.disk
  trace_eq : w'.trace = w.trace
  registry_eq : w'.engine.registry = w.engine.registry
  failures_eq : w'.engine.failures = failures ++ w.engine.failures
  fixes_eq : w'.engine.fixes = fixes ++ w.engine.fixes

theorem Follows.refl (w : World RuleEngine) : Follows [] [] w w := ⟨rfl, rfl, rfl, rfl, rfl⟩

theorem follows_beside (w : World RuleEngine) (a : Aside) :
    Follows a.failures a.fixes w (w.beside a) := ⟨rfl, rfl, rfl, rfl, rfl⟩

/-- When they start to lint, both runs have the same settings but for the format. -/
theorem Follows.prepared (h : Follows failures fixes w w') (format : Option String)
    (silent ignoreErrors : Bool) :
    ruleEngine.prepared (options.reporting format silent ignoreErrors) root w' =
      (ruleEngine.prepared options root w).beside ⟨failures, fixes,
        (options.reporting format silent ignoreErrors).format, w'.messages⟩ := by
  obtain ⟨disk, ⟨registry, settings, recorded, fixed⟩, trace, messages⟩ := w'
  obtain ⟨rfl, rfl, rfl, rfl, rfl⟩ := h
  rfl

/-- How to report is nothing to linting. -/
theorem lintAll_reporting (format : Option String) (silent ignoreErrors : Bool) :
    ruleEngine.lintAll (options.reporting format silent ignoreErrors) root project files w =
      ruleEngine.lintAll options root project files w := by
  have hall : ∀ options, ruleEngine.lintAll options root project files w = _ := fun options =>
    ruleEngine.lintAll_of_logs options root project ruleEngine.logs_self files w []
  rw [hall, hall]
  rfl

/-- Runs whose options differ in how to report only, from worlds that differ aside only, make the
    same calls and come to the same before they report. -/
theorem reach_follows (h : Follows failures fixes w w') (options : TaskOptions) (root : Path)
    (format : Option String) (silent ignoreErrors : Bool) :
    let options' := options.reporting format silent ignoreErrors
    let reached := ruleEngine.reach options root w
    let reached' := ruleEngine.reach options' root w'
    reached'.1 = reached.1 ∧ Follows failures fixes reached.2 reached'.2 ∧
      reached'.2.messages = w'.messages ∧
      ruleEngine.callsMade options' root w' = ruleEngine.callsMade options root w := by
  dsimp only
  have hresolve : FileSet.resolve w'.disk (options.reporting format silent ignoreErrors) root =
      FileSet.resolve w.disk options root := by
    rw [h.disk_eq]
    rfl
  -- The files are found by the disk alone, so both runs find the same or none.
  cases hset : (FileSet.resolve w.disk options root).result with
  | error e =>
    have hset' := (congrArg Traced.result hresolve).trans hset
    rw [Engine.reach_of_resolve_error hset, Engine.reach_of_resolve_error hset',
      Engine.callsMade_of_resolve_error hset, Engine.callsMade_of_resolve_error hset']
    refine ⟨rfl, ⟨h.disk_eq, ?_, h.registry_eq, h.failures_eq, h.fixes_eq⟩, rfl, rfl⟩
    rw [h.trace_eq, hresolve]
  | ok set =>
    have hset' := (congrArg Traced.result hresolve).trans hset
    rw [Engine.reach_of_resolve hset, Engine.reach_of_resolve hset',
      Engine.callsMade_of_resolve hset, Engine.callsMade_of_resolve hset', h.prepared,
      lintAll_reporting, lintAll_aside]
    have hcalls := calls_transcript_beside options root set.project set.files
      ⟨failures, fixes, (options.reporting format silent ignoreErrors).format, w'.messages⟩
      (ruleEngine.prepared options root w)
    rcases ruleEngine.lintAll options root set.project set.files
      (ruleEngine.prepared options root w) with ⟨e | n, after⟩
    · exact ⟨rfl, follows_beside after ⟨failures, fixes, _, _⟩, rfl, hcalls⟩
    · exact ⟨rfl, follows_beside (after.noted _) ⟨failures, fixes, _, _⟩, rfl, hcalls⟩

/-- Before it reports, a run hands over no messages. -/
theorem messages_reach (options : TaskOptions) (root : Path) (w : World RuleEngine) :
    (ruleEngine.reach options root w).2.messages = w.messages := by
  obtain ⟨-, -, hmessages, -⟩ := reach_follows (.refl w) options root
    options.outputFormat options.silent options.ignoreErrors
  exact hmessages

/-! ### The whole run -/

/-- When all files have been linted, the message that reports all that has been recorded is handed
    over, and no other one. -/
theorem messages_run (h : ruleEngine.Finishes options root w) :
    (ruleEngine.run options root w).2.messages = w.messages ++
      (reported? options (ruleEngine.run options root w).2.engine.result).toList := by
  have hmessages := messages_reach options root w
  have hreach := Engine.reach_eq_ok_iff.2 h
  rw [Engine.run_apply]
  generalize ruleEngine.reach options root w = reached at hmessages hreach ⊢
  obtain ⟨outcome, after⟩ := reached
  obtain rfl : outcome = .ok () := hreach
  dsimp only at hmessages ⊢
  rw [report_eq, ← hmessages]

/-- What the options say about the report matters for nothing else: two runs from one world that
    differ in it leave the same texts and record the same, after the same calls and the same
    remarks. Either both break off before their reports with the same error, or both report, and
    each decides by its options on what has been recorded in both. -/
theorem run_reporting (options : TaskOptions) (root : Path) (w : World RuleEngine)
    (format : Option String) (silent ignoreErrors : Bool) :
    let options' := options.reporting format silent ignoreErrors
    let (outcome, after) := ruleEngine.run options root w
    let (outcome', after') := ruleEngine.run options' root w
    (after'.disk = after.disk ∧ after'.engine.result = after.engine.result ∧
      after'.trace = after.trace ∧
      ruleEngine.callsMade options' root w = ruleEngine.callsMade options root w) ∧
    ((∃ e, (ruleEngine.reach options root w).1 = .error e ∧
        (ruleEngine.reach options' root w).1 = .error e ∧
        outcome = .error e ∧ outcome' = .error e) ∨
      ((ruleEngine.reach options root w).1 = .ok () ∧
        (ruleEngine.reach options' root w).1 = .ok () ∧
        outcome = outcomeFor options after.engine.result ∧
        outcome' = outcomeFor options' after.engine.result)) := by
  obtain ⟨houtcome, hfollows, -, hcalls⟩ :=
    reach_follows (.refl w) options root format silent ignoreErrors
  dsimp only
  rw [hcalls, Engine.run_apply, Engine.run_apply]
  generalize ruleEngine.reach options root w = reached at *
  generalize ruleEngine.reach (options.reporting format silent ignoreErrors) root w = reached' at *
  obtain ⟨outcome, after⟩ := reached
  obtain ⟨outcome', after'⟩ := reached'
  obtain rfl : outcome' = outcome := houtcome
  have hresult : after'.engine.result = after.engine.result :=
    congrArg₂ LintResult.mk hfollows.failures_eq hfollows.fixes_eq
  rcases outcome' with e | _
  · exact ⟨⟨hfollows.disk_eq, hresult, hfollows.trace_eq, rfl⟩, .inl ⟨e, rfl, rfl, rfl, rfl⟩⟩
  · dsimp only
    rw [report_eq, report_eq]
    refine ⟨⟨hfollows.disk_eq, hresult, hfollows.trace_eq, rfl⟩, .inr ⟨rfl, rfl, rfl, ?_⟩⟩
    exact congrArg (outcomeFor _) hresult

end RuleEngine

end Autofix
