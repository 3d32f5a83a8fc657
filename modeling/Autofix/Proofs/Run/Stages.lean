import Autofix.Engine.Rules
import Autofix.Engine.Run
import Mathlib.Data.List.Basic

/-!
# The stages of a run

A run finds its files, lints them, and reports. What it does before it reports is `Engine.reach`: it
breaks off with the error of the file set or of the file that cannot be linted, and otherwise leaves
what the last file has left. The report of the rule engine is settled by what has been recorded then
(`RuleEngine.report_eq`): its outcome is `RuleEngine.outcomeFor`, and its message, if there is one,
`RuleEngine.reported?`.
-/

namespace Autofix

namespace Engine

variable {σ κ : Type} (engine : Engine σ κ) (options : TaskOptions) (root : Path)

/-- The world in which a run starts to lint. -/
def prepared (w : World σ) : World σ :=
  { w with
    engine := engine.prepare ⟨true, options.format⟩ w.engine
    trace := w.trace ++ (FileSet.resolve w.disk options root).trace }

/-- What a run does before it reports. -/
def reach : Run σ Unit := do
  let set ← Run.read fun d => FileSet.resolve d options root
  modify fun w => { w with engine := engine.prepare ⟨true, options.format⟩ w.engine }
  let loads ← engine.lintAll options root set.project set.files
  Run.note (.info s!"Linted {set.files.length} files with {loads} configuration loads")

/-- All files that the options select under a root are found and linted without an error. -/
def Finishes (w : World σ) : Prop :=
  ∃ set n, (FileSet.resolve w.disk options root).result = .ok set ∧
    (engine.lintAll options root set.project set.files (engine.prepared options root w)).1 = .ok n

variable {engine options root} {w : World σ}

/-- A run reports what it has reached, if it gets there. -/
theorem run_apply (w : World σ) : engine.run options root w =
    match engine.reach options root w with
    | (.ok (), w) => engine.report options w
    | (.error e, w) => (.error e, w) := by
  have hrun : engine.run options root =
      engine.reach options root >>= fun _ => engine.report options := by
    simp only [run, reach, bind_assoc]
  rw [hrun, Run.bind_apply]
  rcases engine.reach options root w with ⟨_ | _, _⟩ <;> rfl

/-- Without a file set nothing is asked of the engine. -/
theorem reach_of_resolve_error {e : LintError}
    (hset : (FileSet.resolve w.disk options root).result = .error e) :
    engine.reach options root w = (.error e,
      { w with trace := w.trace ++ (FileSet.resolve w.disk options root).trace }) := by
  have hread : (Run.read fun d => FileSet.resolve d options root) w = (.error e,
      { w with trace := w.trace ++ (FileSet.resolve w.disk options root).trace }) := by
    simp only [Run.read, Run.bind_apply, Run.disk_apply, Run.notes_apply, Run.ofExcept_apply, hset]
  simp only [reach, Run.bind_apply, hread]

theorem reach_of_resolve {set : FileSet}
    (hset : (FileSet.resolve w.disk options root).result = .ok set) :
    engine.reach options root w =
      match engine.lintAll options root set.project set.files (engine.prepared options root w) with
      | (.ok n, w) => (.ok (), w.noted
        (.info s!"Linted {set.files.length} files with {n} configuration loads"))
      | (.error e, w) => (.error e, w) := by
  have hread : (Run.read fun d => FileSet.resolve d options root) w =
      (.ok set, { w with trace := w.trace ++ (FileSet.resolve w.disk options root).trace }) := by
    simp only [Run.read, Run.bind_apply, Run.disk_apply, Run.notes_apply, Run.ofExcept_apply, hset]
  simp only [reach, Run.bind_apply, hread, Run.modify_apply]
  have hprepared : { w with
      engine := engine.prepare ⟨true, options.format⟩ w.engine
      trace := w.trace ++ (FileSet.resolve w.disk options root).trace } =
        engine.prepared options root w := rfl
  rw [hprepared]
  rcases engine.lintAll options root set.project set.files
    (engine.prepared options root w) with ⟨_ | _, _⟩ <;> rfl

/-- A run gets to its report exactly if it has linted all its files. -/
theorem reach_eq_ok_iff :
    (engine.reach options root w).1 = .ok () ↔ engine.Finishes options root w := by
  cases hset : (FileSet.resolve w.disk options root).result with
  | error e =>
    rw [reach_of_resolve_error hset]
    refine iff_of_false (fun h => by cases h) ?_
    rintro ⟨set, n, hset', -⟩
    cases hset.symm.trans hset'
  | ok set =>
    rw [reach_of_resolve hset, Finishes]
    simp only [hset, Except.ok.injEq, exists_and_left, exists_eq_left']
    rcases engine.lintAll options root set.project set.files
      (engine.prepared options root w) with ⟨_ | _, _⟩ <;> simp

end Engine

/-! ### Reports -/

namespace RuleEngine

variable {options : TaskOptions} {root : Path} {w w' : World RuleEngine}

theorem hasErrors_iff {r : LintResult} : r.hasErrors ↔ ∃ x ∈ r.failures, x.severity = .error := by
  simp [LintResult.hasErrors, LintResult.errorCount, List.countP_pos_iff]

/-- The outcome that a run decides on, given all that has been found. -/
def outcomeFor (options : TaskOptions) (result : LintResult) : Except LintError Unit :=
  if !options.silent && (Format.ofName? options.format).isNone then
    .error (.invalidFormat options.format)
  else if !options.ignoreErrors && result.hasErrors then .error .lintErrorsFound
  else .ok ()

theorem outcomeFor_congr {r r' : LintResult} (h : r.errorCount = r'.errorCount) :
    outcomeFor options r = outcomeFor options r' := by
  rw [outcomeFor, outcomeFor, LintResult.hasErrors, LintResult.hasErrors, h]

/-- The message that reports a result: what the requested format makes of it, if that is not
    empty. -/
def reported? (options : TaskOptions) (result : LintResult) : Option String :=
  if options.silent then none
  else
    (Format.ofName? options.format).bind fun format =>
      let text := format.render result.failures result.fixes
      if text = "" then none else some text

theorem reported?_eq_some_iff {result : LintResult} {text : String} :
    reported? options result = some text ↔ options.silent = false ∧
      ∃ format, Format.ofName? options.format = some format ∧
        text = format.render result.failures result.fixes ∧ text ≠ "" := by
  rw [reported?]
  split_ifs with hsilent
  · simp [hsilent]
  · simp only [Option.bind_eq_some_iff, Option.ite_none_left_eq_some, Option.some.injEq,
      Bool.not_eq_true] at hsilent ⊢
    refine (and_iff_right hsilent).symm.trans (and_congr_right fun _ => ?_)
    refine exists_congr fun format => and_congr_right fun _ => ?_
    constructor
    · rintro ⟨hne, rfl⟩
      exact ⟨rfl, hne⟩
    · rintro ⟨rfl, hne⟩
      exact ⟨hne, rfl⟩

/-- A report changes nothing but the messages, and decides by what has been recorded. -/
theorem report_eq (options : TaskOptions) (w : World RuleEngine) :
    ruleEngine.report options w = (outcomeFor options w.engine.result,
      { w with messages := w.messages ++ (reported? options w.engine.result).toList }) := by
  have hlog : ∀ (text : String) (w : World RuleEngine), Engine.log text w = (.ok (), { w with
      messages := w.messages ++ (if text = "" then none else some text : Option _).toList }) := by
    intro text w
    unfold Engine.log
    split_ifs
    · simp only [Option.toList_none, List.append_nil]
      rfl
    · rfl
  have hdecide : ∀ (fails : Prop) [Decidable fails] (w : World RuleEngine),
      (if fails then throw .lintErrorsFound else pure () : Run RuleEngine Unit) w =
        (if fails then .error .lintErrorsFound else .ok (), w) := by
    intro fails _ w
    split_ifs <;> rfl
  have hfind : ∀ e : RuleEngine, ruleEngine.findFormatter options.format e =
      ((Format.ofName? options.format).map Format.render, e) := fun _ => rfl
  have hresult : ∀ e : RuleEngine, ruleEngine.result e = e.result := fun _ => rfl
  simp only [Engine.report, outcomeFor, reported?, Run.bind_apply, Run.get_apply, hfind, hresult]
  cases options.silent with
  | true => simp [hdecide]
  | false =>
    cases Format.ofName? options.format with
    | none => simp [Run.bind_apply]
    | some format => simp [Run.bind_apply, hlog, hdecide]

/-- A run that has linted all its files reports what the last one has left, and decides by it. -/
theorem run_of_lintAll {set : FileSet} {n : ℕ}
    (hset : (FileSet.resolve w.disk options root).result = .ok set)
    (hall : ruleEngine.lintAll options root set.project set.files
      (ruleEngine.prepared options root w) = (.ok n, w')) :
    (ruleEngine.run options root w).2.disk = w'.disk ∧
      (ruleEngine.run options root w).2.engine = w'.engine ∧
      (ruleEngine.run options root w).1 = outcomeFor options w'.engine.result := by
  rw [Engine.run_apply, Engine.reach_of_resolve hset, hall]
  dsimp only
  rw [report_eq]
  exact ⟨rfl, rfl, rfl⟩

end RuleEngine

end Autofix
