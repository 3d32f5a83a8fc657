import Autofix.Proofs.Run.Aside
import Autofix.Proofs.Run.Linted

/-!
# Engines that are used again

Nothing that the rule engine has recorded is taken back when another run begins, so that what it has
recorded in the end is what each of its runs would have recorded alone, one after the other
(`RuleEngine.result_after`). A run by an engine that has been used changes the same files, after the
same calls, as the same run by a fresh one; but it reports all that has been recorded since the
engine was made, and decides by it. So it comes to the same exactly if no run before it has recorded
anything (`RuleEngine.serve_after`). Otherwise it may fail for what has been mended long ago
(`RuleEngine.serve_after_fails`).
-/

namespace Autofix

/-- What every part keeps is kept by all of them, one after the other. -/
theorem Transcript.keeps_inOrder {σ κ : Type} {P : World σ → Prop}
    {parts : List (World σ → Transcript σ κ)} {w : World σ} (h : P w)
    (hparts : ∀ part ∈ parts, ∀ w, P w → P (part w).world) : P (inOrder parts w).world := by
  induction parts generalizing w with
  | nil => exact h
  | cons part parts ih =>
    rw [List.forall_mem_cons] at hparts
    have hpart := hparts.1 w h
    rw [inOrder, andThen]
    cases (part w).outcome with
    | error e => exact hpart
    | ok => exact ih hpart hparts.2

namespace RuleEngine

variable {options : TaskOptions} {root : Path} {w w' : World RuleEngine}
  {failures fixes : List Diagnostic}

/-! ### The registry -/

theorem registry_fileTranscript (project : Option Project) (c : Ruleset) (file : Path)
    (w : World RuleEngine) :
    (ruleEngine.fileTranscript project c file w).world.engine.registry = w.engine.registry := by
  rw [Engine.fileTranscript]
  rcases textToLint w.disk project file with e | _ | text
  · rfl
  · rfl
  · have hlints := lint_lintsTo file text c (w.noted (.debug s!"Linting {file.text}"))
    change (lint file text c (w.noted _)).2.engine.registry = _
    generalize lint file text c (w.noted _) = linted at hlints ⊢
    obtain ⟨outcome, disk, after, trace, messages⟩ := linted
    cases hlints <;> rfl

theorem registry_folderTranscript (options : TaskOptions) (root : Path) (project : Option Project)
    (run : List Path) (w : World RuleEngine) :
    (ruleEngine.folderTranscript options root project run w).world.engine.registry =
      w.engine.registry := by
  rcases run with _ | ⟨first, rest⟩
  · rfl
  · rcases hload : (Ruleset.load w.engine.registry w.disk
      (Engine.sourceFor options root first)).result with e | c
    · obtain ⟨told, hfolder⟩ := folderTranscript_of_load_error project hload
      rw [hfolder]
    · obtain ⟨told, hfolder⟩ := folderTranscript_of_load project rest hload
      rw [hfolder, Transcript.world_andThen rfl]
      refine Transcript.keeps_inOrder
        (P := fun v : World RuleEngine => v.engine.registry = w.engine.registry) rfl ?_
      intro part hpart v hv
      obtain ⟨file, -, rfl⟩ := List.mem_map.1 hpart
      rw [registry_fileTranscript, hv]

/-- The registry is the same after a run. -/
theorem registry_run (options : TaskOptions) (root : Path) (w : World RuleEngine) :
    (ruleEngine.run options root w).2.engine.registry = w.engine.registry := by
  have hreach : (ruleEngine.reach options root w).2.engine.registry = w.engine.registry := by
    rcases hset : (FileSet.resolve w.disk options root).result with e | set
    · rw [Engine.reach_of_resolve_error hset]
    · have hall : ruleEngine.lintAll options root set.project set.files
          (ruleEngine.prepared options root w) = _ :=
        ruleEngine.lintAll_of_logs options root set.project ruleEngine.logs_self set.files _ []
      have hkept : (ruleEngine.transcript options root set.project set.files
          (ruleEngine.prepared options root w)).world.engine.registry = w.engine.registry := by
        refine Transcript.keeps_inOrder
          (P := fun v : World RuleEngine => v.engine.registry = w.engine.registry) rfl ?_
        intro part hpart v hv
        obtain ⟨run, -, rfl⟩ := List.mem_map.1 hpart
        rw [registry_folderTranscript, hv]
      rw [Engine.reach_of_resolve hset, hall]
      dsimp only
      rcases (ruleEngine.transcript options root set.project set.files
        (ruleEngine.prepared options root w)).outcome with e | _ <;> exact hkept
  rw [Engine.run_apply]
  generalize ruleEngine.reach options root w = reached at hreach ⊢
  obtain ⟨e | _, after⟩ := reached
  · exact hreach
  · dsimp only
    rw [report_eq]
    exact hreach

/-! ### Runs from worlds that differ aside -/

theorem Follows.result_eq (h : Follows failures fixes w w') : w'.engine.result =
    ⟨failures ++ w.engine.result.failures, fixes ++ w.engine.result.fixes⟩ :=
  congrArg₂ LintResult.mk h.failures_eq h.fixes_eq

/-- Runs from worlds that differ aside only change the same, after the same calls. If nothing had
    been recorded before, they come to the same. -/
theorem run_follows (h : Follows failures fixes w w') (options : TaskOptions) (root : Path) :
    let ran := ruleEngine.run options root w
    let ran' := ruleEngine.run options root w'
    Follows failures fixes ran.2 ran'.2 ∧
      (ruleEngine.reach options root w').1 = (ruleEngine.reach options root w).1 ∧
      ruleEngine.callsMade options root w' = ruleEngine.callsMade options root w ∧
      (failures = [] → fixes = [] → w'.messages = w.messages →
        ran'.1 = ran.1 ∧ ran'.2.messages = ran.2.messages) := by
  obtain ⟨houtcome, hfollows, -, hcalls⟩ := reach_follows h options root
    options.outputFormat options.silent options.ignoreErrors
  -- These are the settings for the report that the options have already.
  change (ruleEngine.reach options root w').1 = _ at houtcome
  change Follows failures fixes _ (ruleEngine.reach options root w').2 at hfollows
  have hmessages := messages_reach options root w
  have hmessages' := messages_reach options root w'
  dsimp only
  rw [Engine.run_apply, Engine.run_apply]
  generalize ruleEngine.reach options root w = reached at *
  generalize ruleEngine.reach options root w' = reached' at *
  obtain ⟨outcome, after⟩ := reached
  obtain ⟨outcome', after'⟩ := reached'
  obtain rfl : outcome' = outcome := houtcome
  rcases outcome' with e | _
  · refine ⟨hfollows, rfl, hcalls, fun _ _ hsame => ⟨rfl, ?_⟩⟩
    exact hmessages'.trans (hsame.trans hmessages.symm)
  · dsimp only at hfollows hmessages hmessages' ⊢
    rw [report_eq, report_eq, hfollows.result_eq]
    refine ⟨⟨hfollows.disk_eq, hfollows.trace_eq, hfollows.registry_eq, hfollows.failures_eq,
      hfollows.fixes_eq⟩, rfl, hcalls, ?_⟩
    rintro rfl rfl hsame
    refine ⟨rfl, ?_⟩
    dsimp only
    rw [hmessages, hmessages', hsame]
    rfl

/-! ### One run after the other -/

/-- A run that an engine is asked for, and the disk that it finds. -/
structure Request where
  options : TaskOptions
  root : Path
  disk : Disk

/-- What comes of a run by an engine. -/
def serve (e : RuleEngine) (r : Request) : Except LintError Unit × World RuleEngine :=
  ruleEngine.run r.options r.root { disk := r.disk, engine := e }

/-- An engine after runs, each of which has left it to the next. -/
def after (e : RuleEngine) (rs : List Request) : RuleEngine :=
  rs.foldl (fun e r => (e.serve r).2.engine) e

theorem after_cons (e : RuleEngine) (r : Request) (rs : List Request) :
    e.after (r :: rs) = (e.serve r).2.engine.after rs := rfl

/-- An engine that nothing has been asked of. -/
def fresh (registry : Registry) : RuleEngine := { registry }

/-- What a run by a fresh engine records. -/
def recordedAlone (registry : Registry) (r : Request) : LintResult :=
  ((fresh registry).serve r).2.engine.result

/-- A run by any engine does what it does by a fresh one, and records that after what the engine has
    recorded. -/
theorem serve_follows (e : RuleEngine) (r : Request) :
    let own := (fresh e.registry).serve r
    let ran := e.serve r
    Follows e.failures e.fixes own.2 ran.2 ∧
      (ruleEngine.reach r.options r.root { disk := r.disk, engine := e }).1 =
        (ruleEngine.reach r.options r.root { disk := r.disk, engine := fresh e.registry }).1 ∧
      ruleEngine.callsMade r.options r.root { disk := r.disk, engine := e } =
        ruleEngine.callsMade r.options r.root { disk := r.disk, engine := fresh e.registry } ∧
      (e.failures = [] → e.fixes = [] → ran.1 = own.1 ∧ ran.2.messages = own.2.messages) := by
  have hstart : Follows e.failures e.fixes { disk := r.disk, engine := fresh e.registry }
      { disk := r.disk, engine := e } :=
    ⟨rfl, rfl, rfl, (List.append_nil _).symm, (List.append_nil _).symm⟩
  obtain ⟨hfollows, hreach, hcalls, hsame⟩ := run_follows hstart r.options r.root
  exact ⟨hfollows, hreach, hcalls, fun hfailures hfixes => hsame hfailures hfixes rfl⟩

/-- Runs by an engine record what each of them records alone, one after the other. -/
theorem result_after (e : RuleEngine) (rs : List Request) :
    (e.after rs).registry = e.registry ∧
      (e.after rs).failures =
        e.failures ++ rs.flatMap (fun r => (recordedAlone e.registry r).failures) ∧
      (e.after rs).fixes = e.fixes ++ rs.flatMap (fun r => (recordedAlone e.registry r).fixes) := by
  induction rs generalizing e with
  | nil => exact ⟨rfl, (List.append_nil _).symm, (List.append_nil _).symm⟩
  | cons r rs ih =>
    have hregistry : (e.serve r).2.engine.registry = e.registry := registry_run _ _ _
    obtain ⟨hfollows, -⟩ := serve_follows e r
    obtain ⟨hregistry', hfailures, hfixes⟩ := ih (e.serve r).2.engine
    rw [hregistry] at hregistry' hfailures hfixes
    rw [hfollows.failures_eq] at hfailures
    rw [hfollows.fixes_eq] at hfixes
    rw [List.flatMap_cons, List.flatMap_cons, ← List.append_assoc, ← List.append_assoc]
    exact ⟨hregistry', hfailures, hfixes⟩

theorem recordedAlone_eq_nil_iff (registry : Registry) (rs : List Request) :
    (∀ r ∈ rs, recordedAlone registry r = ⟨[], []⟩) ↔
      rs.flatMap (fun r => (recordedAlone registry r).failures) = [] ∧
        rs.flatMap (fun r => (recordedAlone registry r).fixes) = [] := by
  rw [List.flatMap_eq_nil_iff, List.flatMap_eq_nil_iff, ← forall₂_and]
  refine forall₂_congr fun r _ => ?_
  constructor
  · intro h
    rw [h]
    exact ⟨rfl, rfl⟩
  · rintro ⟨hfailures, hfixes⟩
    exact congrArg₂ LintResult.mk hfailures hfixes

/-- A run by an engine that has been used comes to the same as by a fresh one, but for what has been
    recorded before: it breaks off with the same error before its report, or not at all, after the
    same calls, and writes the same. All that has been recorded since the engine was made is in its
    result. So outcome, messages and result are those of a fresh engine if no run before has
    recorded anything, and otherwise not all of them are. -/
theorem serve_after (registry : Registry) (earlier : List Request) (r : Request) :
    let used := (fresh registry).after earlier
    let (outcome, after) := used.serve r
    let (outcome', after') := (fresh registry).serve r
    (after.disk = after'.disk ∧ after.trace = after'.trace ∧
      (ruleEngine.reach r.options r.root { disk := r.disk, engine := used }).1 =
        (ruleEngine.reach r.options r.root { disk := r.disk, engine := fresh registry }).1 ∧
      ruleEngine.callsMade r.options r.root { disk := r.disk, engine := used } =
        ruleEngine.callsMade r.options r.root { disk := r.disk, engine := fresh registry }) ∧
    after.engine.result =
      ⟨earlier.flatMap (fun r => (recordedAlone registry r).failures) ++ after'.engine.failures,
        earlier.flatMap (fun r => (recordedAlone registry r).fixes) ++ after'.engine.fixes⟩ ∧
    ((outcome = outcome' ∧ after.messages = after'.messages ∧
        after.engine.result = after'.engine.result) ↔
      ∀ r ∈ earlier, recordedAlone registry r = ⟨[], []⟩) := by
  dsimp only
  obtain ⟨hregistry, hfailures, hfixes⟩ := result_after (fresh registry) earlier
  replace hregistry : ((fresh registry).after earlier).registry = registry := hregistry
  replace hfailures : ((fresh registry).after earlier).failures =
    earlier.flatMap fun r => (recordedAlone registry r).failures := hfailures
  replace hfixes : ((fresh registry).after earlier).fixes =
    earlier.flatMap fun r => (recordedAlone registry r).fixes := hfixes
  obtain ⟨hfollows, hreach, hcalls, hsame⟩ := serve_follows ((fresh registry).after earlier) r
  rw [hregistry] at hfollows hreach hcalls hsame
  rw [hfailures, hfixes] at hfollows hsame
  have hresult := hfollows.result_eq
  generalize ((fresh registry).after earlier).serve r = ran at *
  generalize (fresh registry).serve r = own at *
  obtain ⟨outcome, after⟩ := ran
  obtain ⟨outcome', after'⟩ := own
  refine ⟨⟨hfollows.disk_eq, hfollows.trace_eq, hreach, hcalls⟩, hresult, ?_⟩
  -- The results are the same exactly if nothing stands before what this run records.
  rw [recordedAlone_eq_nil_iff]
  constructor
  · rintro ⟨-, -, heq⟩
    rw [hresult] at heq
    obtain ⟨hfailures, hfixes⟩ := LintResult.mk.inj heq
    exact ⟨List.append_left_eq_self.1 hfailures, List.append_left_eq_self.1 hfixes⟩
  · rintro ⟨hnone, hnone'⟩
    obtain ⟨houtcome, hmessages⟩ := hsame hnone hnone'
    refine ⟨houtcome, hmessages, ?_⟩
    rw [hresult, hnone, hnone']
    rfl

/-! ### A mended file -/

/-- A configuration whose rule forbids `a` and has no fix. -/
def strictConfig : String :=
  "\x7b\"rules\": \x7b\"letter\": \x7b\"pattern\": \"a\", \"message\": \"No a\"\x7d\x7d\x7d"

/-- The run for a file with the given text. -/
def strictRequest (text : String) : Request := ⟨aloneTask, ⟨"/"⟩, aloneDisk strictConfig text⟩

/-- The options of the rule. -/
def strictOptions : Json := .object [("message", .string "No a"), ("pattern", .string "a")]

/-- The rules that are loaded for the file. -/
def strictRules : Ruleset where
  config := .inheriting { rules := [("letter", .options strictOptions)] } ⟨"/lintfix.json"⟩ []
  active :=
    let regex := ⟨.ofExpr (.set (Unicode.CodeSet.single 'a')), 0, []⟩
    [⟨"letter", .error, strictOptions, some ⟨"letter", regex, none, "No a"⟩⟩]

/-- What `strictRules` find in the text `a`. -/
def strictFound : Diagnostic :=
  ⟨⟨"/a.ts"⟩, "letter", "No a", ⟨0, 1⟩, some ⟨⟨1, 0⟩, ⟨1, 1⟩⟩, .error, none⟩

/-- The run records what is found in the file. -/
theorem serve_strict (e : RuleEngine) (text : String) (found : List Diagnostic)
    (hregistry : e.registry = [])
    (htext : textToLint (aloneDisk strictConfig text) none ⟨"/a.ts"⟩ = .ok (some text))
    (hlinted : strictRules.linted? [] true ⟨"/a.ts"⟩ (some text) = some ⟨none, found, []⟩) :
    let ran := e.serve (strictRequest text)
    ran.1 = outcomeFor aloneTask ran.2.engine.result ∧
      ran.2.engine = { e with options := {} }.recorded found [] := by
  have hown : LintConfig.ofText strictConfig =
      .ok { rules := [("letter", .options strictOptions)] } := by cbv
  have hload := load_alone (c := strictRules) text hown rfl rfl (by cbv)
  obtain ⟨-, houtcome, hengine, -⟩ := run_alone hregistry hload htext hlinted
  exact ⟨houtcome, hengine⟩

/-- A file in which a failure was found and which has been mended fails again when the engine is
    used again. By a fresh engine the second run comes to its end. -/
theorem serve_after_fails :
    let used := (fresh []).after [strictRequest "a"]
    ((fresh []).serve (strictRequest "b")).1 = .ok () ∧
      (used.serve (strictRequest "b")).1 = .error .lintErrorsFound ∧
      ((fresh []).serve (strictRequest "b")).2.engine.result = ⟨[], []⟩ ∧
      (used.serve (strictRequest "b")).2.engine.result = ⟨[strictFound], []⟩ := by
  have hformat : Format.ofName? aloneTask.format = some .prose := by decide
  obtain ⟨-, hengine⟩ := serve_strict (fresh []) "a" [strictFound] rfl rfl (by cbv)
  have hused : (fresh []).after [strictRequest "a"] = (fresh []).recorded [strictFound] [] := by
    rw [after_cons, hengine]
    rfl
  obtain ⟨houtcome, hfresh⟩ := serve_strict (fresh []) "b" [] rfl rfl (by cbv)
  obtain ⟨houtcome', hagain⟩ := serve_strict ((fresh []).recorded [strictFound] []) "b" [] rfl rfl
    (by cbv)
  rw [hfresh, outcomeFor, hformat] at houtcome
  rw [hagain, outcomeFor, hformat] at houtcome'
  dsimp only
  rw [hused]
  exact ⟨houtcome, houtcome', congrArg RuleEngine.result hfresh, congrArg RuleEngine.result hagain⟩

end RuleEngine

end Autofix
