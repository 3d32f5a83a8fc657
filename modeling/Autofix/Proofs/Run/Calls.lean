import Autofix.Engine.Run
import Autofix.Proofs.Run.Folders

/-!
# The calls of a run

Linting files keeps a configuration while the folder stays the same. What this comes to can be told
without the configuration that is kept: for each maximal part of the files that lies in one folder
the configuration is loaded once, for the first file of the part, and the files of the part that are
not empty are linted under it, up to the first error (`Engine.transcript`).

* `Engine.logged` is an engine that works as another one and keeps the calls made to it;
* `Engine.lintAll_of_logs` follows linting through any engine that keeps calls in this way;
* `Engine.lintAll_eq_transcript`: outcome, world and calls are those of the transcript.
-/

namespace Autofix

/-- The world with another engine. -/
def World.withEngine {σ τ : Type} (w : World σ) (engine : τ) : World τ :=
  { disk := w.disk, engine, trace := w.trace, messages := w.messages }

/-- What a run asks of its engine while it lints. -/
inductive Call (κ : Type) where
  | load (source : ConfigSource)
  | lint (file : Path) (text : String) (config : κ)

/-- What comes of a part of a run: the calls made, the outcome, and the world that is left. -/
structure Transcript (σ κ : Type) where
  calls : List (Call κ)
  outcome : Except LintError Unit
  world : World σ

namespace Transcript

variable {σ κ : Type}

/-- What comes of one part and then of another. An error in the first keeps the second from being
    started. -/
def andThen (t : Transcript σ κ) (next : World σ → Transcript σ κ) : Transcript σ κ :=
  match t.outcome with
  | .error e => ⟨t.calls, .error e, t.world⟩
  | .ok () => ⟨t.calls ++ (next t.world).calls, (next t.world).outcome, (next t.world).world⟩

/-- What comes of parts one after the other, up to the first error. -/
def inOrder : List (World σ → Transcript σ κ) → World σ → Transcript σ κ
  | [], w => ⟨[], .ok (), w⟩
  | part :: parts, w => (part w).andThen (inOrder parts)

/-! ### Parts put together -/

variable {t : Transcript σ κ} {next : World σ → Transcript σ κ} {call : Call κ}

theorem andThen_assoc (t : Transcript σ κ) (next after : World σ → Transcript σ κ) :
    (t.andThen next).andThen after = t.andThen fun w => (next w).andThen after := by
  rcases t with ⟨calls, e | _, w⟩
  · rfl
  · simp only [andThen]
    rcases (next w).outcome with e | _
    · rfl
    · simp

theorem inOrder_append (parts more : List (World σ → Transcript σ κ)) (w : World σ) :
    inOrder (parts ++ more) w = (inOrder parts w).andThen (inOrder more) := by
  induction parts generalizing w with
  | nil => simp [inOrder, andThen]
  | cons part parts ih =>
    rw [List.cons_append, inOrder, inOrder, andThen_assoc]
    exact congrArg _ (funext ih)

theorem outcome_andThen (hok : t.outcome = .ok ()) :
    (t.andThen next).outcome = (next t.world).outcome := by
  rw [andThen, hok]

/-- Both parts end without an error if the whole does. -/
theorem of_outcome_andThen (hok : (t.andThen next).outcome = .ok ()) :
    t.outcome = .ok () ∧ (next t.world).outcome = .ok () := by
  rcases t with ⟨calls, e | _, w⟩
  · exact absurd hok nofun
  · exact ⟨rfl, hok⟩

theorem world_andThen (hok : t.outcome = .ok ()) : (t.andThen next).world = (next t.world).world := by
  rw [andThen, hok]

theorem andThen_inOrder_nil (t : Transcript σ κ) : t.andThen (inOrder []) = t := by
  rcases t with ⟨calls, e | _, w⟩
  · rfl
  · simp [andThen, inOrder]

theorem mem_calls_andThen (h : call ∈ t.calls) : call ∈ (t.andThen next).calls := by
  rcases t with ⟨calls, e | _, w⟩
  · exact h
  · exact List.mem_append_left _ h

theorem mem_calls_andThen_of_ok (hok : t.outcome = .ok ()) (h : call ∈ (next t.world).calls) :
    call ∈ (t.andThen next).calls := by
  rw [andThen, hok]
  exact List.mem_append_right _ h

/-- Every call is made in one of the parts. -/
theorem exists_of_mem_calls_inOrder {parts : List (World σ → Transcript σ κ)} {w : World σ}
    (h : call ∈ (inOrder parts w).calls) : ∃ part ∈ parts, ∃ w, call ∈ (part w).calls := by
  induction parts generalizing w with
  | nil => exact absurd h List.not_mem_nil
  | cons part parts ih =>
    have hcall : call ∈ (part w).calls ∨ call ∈ (inOrder parts (part w).world).calls := by
      rw [inOrder, andThen] at h
      split at h
      · exact .inl h
      · exact List.mem_append.1 h
    rcases hcall with hcall | hcall
    · exact ⟨part, List.mem_cons_self, w, hcall⟩
    · obtain ⟨part', hmem, hcall⟩ := ih hcall
      exact ⟨part', List.mem_cons_of_mem _ hmem, hcall⟩

end Transcript

namespace Engine

variable {σ τ κ : Type} (engine : Engine σ κ) (options : TaskOptions) (root : Path)
  (project : Option Project)

/-! ### What linting is to come to -/

/-- Where the configuration of a file comes from. -/
def sourceFor (file : Path) : ConfigSource :=
  match options.lintConfigPath, options.lintRulesPath with
  | some path, _ => .file path root
  | none, some path => .search (root.join path)
  | none, none => .nearest file

/-- A file is linted unless it is empty. -/
def fileTranscript (config : κ) (file : Path) (w : World σ) : Transcript σ κ :=
  match textToLint w.disk project file with
  | .error e => ⟨[], .error e, w⟩
  | .ok none => ⟨[], .ok (), w.noted (.debug s!"Skipping empty file {file.text}")⟩
  | .ok (some text) =>
    let (outcome, w) := engine.lint file text config (w.noted (.debug s!"Linting {file.text}"))
    ⟨[.lint file text config], outcome, w⟩

/-- The configuration of files in one folder is loaded for the first of them, and all of them are
    linted under it. -/
def folderTranscript : List Path → World σ → Transcript σ κ
  | [], w => ⟨[], .ok (), w⟩
  | file :: rest, w =>
    let source := sourceFor options root file
    let remark := .debug s!"Loading configuration for {(CurrentConfig.folder file).text}"
    match engine.load source (w.noted remark) with
    | (.error e, w) => ⟨[.load source], .error e, w⟩
    | (.ok config, w) => Transcript.andThen ⟨[.load source], .ok (), w⟩
      (.inOrder ((file :: rest).map (engine.fileTranscript project config)))

/-- The folders that the files lie in, one after the other. -/
def transcript (files : List Path) : World σ → Transcript σ κ :=
  .inOrder ((folderRuns files).map (engine.folderTranscript options root project))

/-! ### Keeping the calls -/

/-- A step of an engine, after which the call that it answers is kept. -/
def keeping {α : Type} (call : Call κ) (step : Run σ α) : Run (σ × List (Call κ)) α := fun w =>
  let (outcome, after) := step (w.withEngine w.engine.1)
  (outcome, after.withEngine (after.engine, w.engine.2 ++ [call]))

/-- The engine that works as another one does and keeps the calls made to it. -/
def logged : Engine (σ × List (Call κ)) κ where
  prepare settings state := (engine.prepare settings state.1, state.2)
  load source := keeping (.load source) (engine.load source)
  lint file text config := keeping (.lint file text config) (engine.lint file text config)
  result state := engine.result state.1
  findFormatter name state :=
    let (formatter, after) := engine.findFormatter name state.1
    (formatter, (after, state.2))

/-- An engine works as another one and adds the calls made to it to those it has kept. `embed` puts
    them into a world of the other engine. -/
structure Logs (engine : Engine σ κ) (logging : Engine τ κ)
    (embed : World σ → List (Call κ) → World τ) : Prop where
  disk_eq : ∀ w calls, (embed w calls).disk = w.disk
  noted_eq : ∀ w calls e, (embed w calls).noted e = embed (w.noted e) calls
  load_eq : ∀ source w calls, logging.load source (embed w calls) =
    (engine.load source w).map id (embed · (calls ++ [.load source]))
  lint_eq : ∀ file text config w calls, logging.lint file text config (embed w calls) =
    (engine.lint file text config w).map id (embed · (calls ++ [.lint file text config]))

/-- An engine that keeps no calls. -/
theorem logs_self : Logs engine engine fun w _ => w where
  disk_eq _ _ := rfl
  noted_eq _ _ _ := rfl
  load_eq _ _ _ := rfl
  lint_eq _ _ _ _ _ := rfl

theorem keeping_apply {α : Type} (call : Call κ) (step : Run σ α) (w : World σ)
    (calls : List (Call κ)) : keeping call step (w.withEngine (w.engine, calls)) =
      (step w).map id fun after => after.withEngine (after.engine, calls ++ [call]) := rfl

/-- An engine that works as another one still does so when the calls made to it are kept. -/
theorem Logs.logged {engine : Engine σ κ} {logging : Engine τ κ}
    {embed : World σ → List (Call κ) → World τ} (h : Logs engine logging embed) :
    Logs engine logging.logged fun w calls =>
      (embed w calls).withEngine ((embed w calls).engine, calls) where
  disk_eq := h.disk_eq
  noted_eq w calls e := by
    rw [← h.noted_eq]
    rfl
  load_eq source w calls := by
    refine (keeping_apply (.load source) (logging.load source) (embed w calls) calls).trans ?_
    rw [h.load_eq]
    rfl
  lint_eq file text config w calls := by
    refine (keeping_apply (.lint file text config) (logging.lint file text config)
      (embed w calls) calls).trans ?_
    rw [h.lint_eq]
    rfl

theorem logs_logged : Logs engine engine.logged fun w calls => w.withEngine (w.engine, calls) :=
  engine.logs_self.logged

/-! ### Linting step by step -/

variable {options root project} {logging : Engine τ κ}
  {embed : World σ → List (Call κ) → World τ}

theorem configFor_some (file : Path) :
    engine.configFor options root (some file) = engine.load (sourceFor options root file) := by
  simp only [configFor, sourceFor]
  cases options.lintConfigPath <;> cases options.lintRulesPath <;> rfl

variable {engine}

/-- Linting a file comes to what its transcript says. -/
theorem lintFile_of_logs (h : Logs engine logging embed) (config : κ) (file : Path) (w : World σ)
    (calls : List (Call κ)) : logging.lintFile project config file (embed w calls) =
      let t := engine.fileTranscript project config file w
      (t.outcome, embed t.world (calls ++ t.calls)) := by
  simp only [lintFile, fileTranscript, Run.bind_apply, Run.disk_apply, Run.ofExcept_apply,
    h.disk_eq]
  cases textToLint w.disk project file with
  | error e => simp
  | ok text =>
    cases text with
    | none => simp [h.noted_eq]
    | some text =>
      simp only [Run.bind_apply, Run.note_apply, h.noted_eq, h.lint_eq]
      rfl

/-- What has been loaded for a file is kept for the files in its folder, and for no others. -/
theorem get?_afterLoad (current : CurrentConfig κ) (file other : Path) (config : κ) :
    (current.afterLoad file (.ok config : Except LintError κ)).get? other =
      if SameFolder file other then some config else none := by
  simp only [CurrentConfig.afterLoad, CurrentConfig.get?, Option.bind_some]
  by_cases hsame : SameFolder file other
  · rw [if_pos hsame]
    exact if_pos hsame
  · rw [if_neg hsame]
    exact if_neg hsame

/-- A file in the folder of the configuration that is kept is linted under it. -/
theorem lintNext_of_get? {current : CurrentConfig κ} {file : Path} {config : κ}
    (hget : current.get? file = some config) (w : World σ) :
    engine.lintNext options root project current file w =
      match engine.lintFile project config file w with
      | (.error e, w) => (.error e, w)
      | (.ok (), w) => (.ok current, w) := by
  simp only [lintNext, CurrentConfig.forFile, hget, Run.bind_apply, Run.pure_apply,
    Run.ofExcept_apply]
  rcases engine.lintFile project config file w with ⟨_ | _, _⟩ <;> rfl

/-- Without a configuration for the folder of a file one is loaded, and then the file is linted as
    if it had been there. -/
theorem lintNext_of_get?_eq_none (h : Logs engine logging embed) {current : CurrentConfig κ}
    {file : Path} (hget : current.get? file = none) (w : World σ) (calls : List (Call κ)) :
    logging.lintNext options root project current file (embed w calls) =
      let source := sourceFor options root file
      let remark := .debug s!"Loading configuration for {(CurrentConfig.folder file).text}"
      match engine.load source (w.noted remark) with
      | (.error e, w) => (.error e, embed w (calls ++ [.load source]))
      | (.ok config, w) => logging.lintNext options root project
        (current.afterLoad file (.ok config : Except LintError κ)) file
        (embed w (calls ++ [.load source])) := by
  have hlift : ∀ (x : Run τ κ) w, (ExceptT.lift x.run : Run τ (Except LintError κ)) w =
      (.ok (x w).1, (x w).2) := fun _ _ => rfl
  rw [lintNext]
  simp only [CurrentConfig.forFile, hget, configFor_some, Run.bind_apply, Run.note_apply,
    Run.pure_apply, hlift, h.noted_eq, h.load_eq]
  rcases engine.load _ _ with ⟨_ | config, w⟩
  · rfl
  · have hkept : (current.afterLoad file (.ok config : Except LintError κ)).get? file =
        some config := by rw [get?_afterLoad, if_pos (.refl file)]
    simp only [Prod.map, id, Run.ofExcept_apply, lintNext_of_get? hkept]
    rcases logging.lintFile project config file _ with ⟨_ | _, _⟩ <;> rfl

theorem lintFrom_cons_apply (current : CurrentConfig κ) (file : Path) (rest : List Path)
    (w : World σ) : engine.lintFrom options root project current (file :: rest) w =
      match engine.lintNext options root project current file w with
      | (.ok current, w) => engine.lintFrom options root project current rest w
      | (.error e, w) => (.error e, w) := by
  rw [lintFrom, Run.bind_apply]
  rcases engine.lintNext options root project current file w with ⟨_ | _, _⟩ <;> rfl

/-- Linting files whose folder has no configuration yet starts with loading one. -/
theorem lintFrom_cons_of_get?_eq_none (h : Logs engine logging embed) {current : CurrentConfig κ}
    {file : Path} (hget : current.get? file = none) (rest : List Path) (w : World σ)
    (calls : List (Call κ)) :
    logging.lintFrom options root project current (file :: rest) (embed w calls) =
      let source := sourceFor options root file
      let remark := .debug s!"Loading configuration for {(CurrentConfig.folder file).text}"
      match engine.load source (w.noted remark) with
      | (.error e, w) => (.error e, embed w (calls ++ [.load source]))
      | (.ok config, w) => logging.lintFrom options root project
        (current.afterLoad file (.ok config : Except LintError κ)) (file :: rest)
        (embed w (calls ++ [.load source])) := by
  rw [lintFrom_cons_apply, lintNext_of_get?_eq_none h hget]
  dsimp only
  rcases engine.load _ _ with ⟨_ | config, w⟩
  · rfl
  · dsimp only
    rw [lintFrom_cons_apply]

/-- Files in the folder of the configuration that is kept are linted under it, up to the first
    error. -/
theorem lintFrom_append_of_get? (h : Logs engine logging embed) {current : CurrentConfig κ}
    {config : κ} {run : List Path} (hget : ∀ file ∈ run, current.get? file = some config)
    (rest : List Path) (w : World σ) (calls : List (Call κ)) :
    logging.lintFrom options root project current (run ++ rest) (embed w calls) =
      let t := Transcript.inOrder (run.map (engine.fileTranscript project config)) w
      match t.outcome with
      | .error e => (.error e, embed t.world (calls ++ t.calls))
      | .ok () =>
        logging.lintFrom options root project current rest (embed t.world (calls ++ t.calls)) := by
  induction run generalizing w calls with
  | nil => simp [Transcript.inOrder]
  | cons file run ih =>
    rw [List.cons_append, lintFrom_cons_apply, lintNext_of_get? (hget file List.mem_cons_self),
      lintFile_of_logs h]
    simp only [List.map_cons, Transcript.inOrder, Transcript.andThen]
    cases (engine.fileTranscript project config file w).outcome with
    | error e => rfl
    | ok =>
      simp only [ih fun file hfile => hget file (List.mem_cons_of_mem _ hfile), List.append_assoc]

/-- Linting files that lie in one folder after the other. The configuration that is kept at first is
    not for the first folder, and later on it is for the folder before. -/
theorem lintFrom_flatten (h : Logs engine logging embed) {runs : List (List Path)}
    (hne : [] ∉ runs) (hsame : ∀ run ∈ runs, ∀ p ∈ run, ∀ q ∈ run, SameFolder p q)
    (hdiffer : runs.IsChain fun run next => ∀ p ∈ run, ∀ q ∈ next, ¬SameFolder p q)
    (current : CurrentConfig κ)
    (hget : ∀ run ∈ runs.head?, ∀ file ∈ run, current.get? file = none)
    (w : World σ) (calls : List (Call κ)) :
    logging.lintFrom options root project current runs.flatten (embed w calls) =
      let t := Transcript.inOrder (runs.map (engine.folderTranscript options root project)) w
      (t.outcome.map fun _ => current.loads + runs.length, embed t.world (calls ++ t.calls)) := by
  induction runs generalizing current w calls with
  | nil => simp [lintFrom, Transcript.inOrder, Except.map]
  | cons run runs ih =>
    rw [List.isChain_cons] at hdiffer
    obtain ⟨file, rest, rfl⟩ := List.exists_cons_of_ne_nil fun hnil : run = [] =>
      hne (hnil ▸ List.mem_cons_self)
    have hrun : ∀ q ∈ file :: rest, SameFolder file q :=
      hsame _ List.mem_cons_self file List.mem_cons_self
    rw [List.flatten_cons, List.cons_append, lintFrom_cons_of_get?_eq_none h
      (hget _ rfl file List.mem_cons_self), List.map_cons, Transcript.inOrder, folderTranscript]
    dsimp only
    rcases engine.load _ _ with ⟨e | config, w⟩
    · rfl
    · -- What has been loaded is kept for all files of this part, and for none of the next one.
      have hkept : ∀ other ∈ file :: rest, (current.afterLoad file
          (.ok config : Except LintError κ)).get? other = some config := fun other hother => by
        rw [get?_afterLoad, if_pos (hrun other hother)]
      have hnext : ∀ run ∈ runs.head?, ∀ other ∈ run, (current.afterLoad file
          (.ok config : Except LintError κ)).get? other = none := fun run hhead other hother => by
        rw [get?_afterLoad, if_neg (hdiffer.1 run hhead file List.mem_cons_self other hother)]
      dsimp only
      rw [← List.cons_append, lintFrom_append_of_get? h hkept]
      simp only [Transcript.andThen]
      generalize Transcript.inOrder ((file :: rest).map (engine.fileTranscript project config)) w =
        t
      rcases t with ⟨made, e | _, w⟩
      · simp [Except.map]
      · simp only [List.append_assoc]
        rw [ih (fun hnil => hne (List.mem_cons_of_mem _ hnil))
          (fun run hmem => hsame run (List.mem_cons_of_mem _ hmem)) hdiffer.2 _ hnext]
        simp [CurrentConfig.afterLoad, Nat.add_comm, Nat.add_left_comm]

variable (engine options root project)

theorem lintAll_of_logs (h : Logs engine logging embed) (files : List Path) (w : World σ)
    (calls : List (Call κ)) :
    logging.lintAll options root project files (embed w calls) =
      let t := engine.transcript options root project files w
      (t.outcome.map fun _ => (folderRuns files).length, embed t.world (calls ++ t.calls)) := by
  obtain ⟨hfiles, hne, hsame, hdiffer⟩ := folderRuns_eq_iff.1 (rfl : folderRuns files = _)
  -- The files also stand in the transcript, where they are not to be taken apart.
  conv_lhs => rw [hfiles]
  rw [lintAll, lintFrom_flatten h hne hsame hdiffer {} fun _ _ _ _ => rfl]
  simp [transcript]

/-- What is loaded is where the configurations of the files come from. -/
theorem exists_of_load_mem {source : ConfigSource} {files : List Path} {w : World σ}
    (h : .load source ∈ (engine.transcript options root project files w).calls) :
    ∃ file ∈ files, source = sourceFor options root file := by
  obtain ⟨hflatten, -⟩ := folderRuns_eq_iff.1 (rfl : folderRuns files = _)
  obtain ⟨part, hpart, w, hcall⟩ := Transcript.exists_of_mem_calls_inOrder h
  obtain ⟨run, hrun, rfl⟩ := List.mem_map.1 hpart
  cases run with
  | nil => exact absurd hcall List.not_mem_nil
  | cons first rest =>
    refine ⟨first, hflatten ▸ List.mem_flatten_of_mem hrun List.mem_cons_self, ?_⟩
    rw [folderTranscript] at hcall
    split at hcall
    · simpa using hcall
    · -- No file loads anything of its own.
      rcases List.mem_cons.1 hcall with hload | hlint
      · simpa using hload
      · obtain ⟨part, hpart, w, hcall⟩ := Transcript.exists_of_mem_calls_inOrder hlint
        obtain ⟨file, -, rfl⟩ := List.mem_map.1 hpart
        unfold fileTranscript at hcall
        split at hcall
        · exact absurd hcall List.not_mem_nil
        · exact absurd hcall List.not_mem_nil
        · cases List.mem_singleton.1 hcall

/-- Linting files makes exactly the calls of the transcript, and comes to its outcome and world: the
    configuration is loaded once for each maximal part of the files that lies in one folder, and the
    files of the part that are not empty are linted under it, up to the first error. Without an
    error the number of the parts comes out. -/
theorem lintAll_eq_transcript (files : List Path) (w : World σ) (calls : List (Call κ)) :
    let t := engine.transcript options root project files w
    let outcome := t.outcome.map fun _ => (folderRuns files).length
    engine.lintAll options root project files w = (outcome, t.world) ∧
      engine.logged.lintAll options root project files (w.withEngine (w.engine, calls)) =
        (outcome, t.world.withEngine (t.world.engine, calls ++ t.calls)) :=
  ⟨engine.lintAll_of_logs options root project engine.logs_self files w [],
    engine.lintAll_of_logs options root project engine.logs_logged files w calls⟩

end Engine

end Autofix
