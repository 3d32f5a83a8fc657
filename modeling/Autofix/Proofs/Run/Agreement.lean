import Autofix.Proofs.Config.Alike
import Autofix.Proofs.Linting
import Autofix.Proofs.Run.Calls

/-!
# Parts of runs that agree

Two runs of the rule engine agree if the same is linted, under configurations that are alike, and
all that is left is the same but for the trace (`RuleEngine.Agree`). Linting looks at no trace and
changes no file but the one that is linted (`RuleEngine.exists_lint_eq`), so that a file is linted
in agreement under rules that are alike (`RuleEngine.fileTranscript_agree`).
-/

namespace Autofix

/-- Two worlds differ in nothing but the trace. -/
structure World.Agrees {σ : Type} (w w' : World σ) : Prop where
  disk_eq : w.disk = w'.disk
  engine_eq : w.engine = w'.engine
  messages_eq : w.messages = w'.messages

/-- What is asked of an engine, if it is to lint. -/
def Call.lint? {κ : Type} : Call κ → Option (Path × String × κ)
  | .load _ => none
  | .lint file text config => some (file, text, config)

/-- The same file is linted with the same text, under rules that are alike. -/
def LintsAlike (x y : Path × String × Ruleset) : Prop :=
  x.1 = y.1 ∧ x.2.1 = y.2.1 ∧ x.2.2.Alike y.2.2

/-- The same is linted in the same order. -/
def SameLints (calls calls' : List (Call Ruleset)) : Prop :=
  List.Forall₂ LintsAlike (calls.filterMap Call.lint?) (calls'.filterMap Call.lint?)

theorem World.Agrees.refl {σ : Type} (w : World σ) : Agrees w w := ⟨rfl, rfl, rfl⟩

theorem SameLints.append {a a' b b' : List (Call Ruleset)} (h : SameLints a a')
    (h' : SameLints b b') : SameLints (a ++ b) (a' ++ b') := by
  rw [SameLints, List.filterMap_append, List.filterMap_append]
  exact List.rel_append h h'

namespace RuleEngine

/-- Since a world nothing has been changed but the contents of files at some places, what has been
    recorded, the messages and the trace. -/
structure Since (start : World RuleEngine) (places : Disk.Place → Prop) (w : World RuleEngine) :
    Prop where
  rewrites : start.disk.Rewrites places w.disk
  registry_eq : w.engine.registry = start.engine.registry

/-- Two parts of a run, since a world, differ in nothing but what is loaded and what is said. -/
structure Agree (start : World RuleEngine) (places : Disk.Place → Prop)
    (t t' : Transcript RuleEngine Ruleset) : Prop where
  outcome_eq : t.outcome = t'.outcome
  world : t.world.Agrees t'.world
  lints : SameLints t.calls t'.calls
  since : Since start places t.world

variable {start w w' : World RuleEngine} {places : Disk.Place → Prop}
  {t t' : Transcript RuleEngine Ruleset} {c c' : Ruleset} {file path : Path} {content : String}
  {options : TaskOptions} {root : Path}

theorem Agree.andThen {next next' : World RuleEngine → Transcript RuleEngine Ruleset}
    (h : Agree start places t t')
    (hnext : t.outcome = .ok () → Agree start places (next t.world) (next' t'.world)) :
    Agree start places (t.andThen next) (t'.andThen next') := by
  obtain ⟨houtcome, hworld, hlints, hsince⟩ := h
  rw [Transcript.andThen, Transcript.andThen, ← houtcome]
  cases hout : t.outcome with
  | error e => exact ⟨rfl, hworld, hlints, hsince⟩
  | ok =>
    obtain ⟨houtcome', hworld', hlints', hsince'⟩ := hnext hout
    exact ⟨houtcome', hworld', hlints.append hlints', hsince'⟩

/-! ### One file -/

/-- What linting does: it writes the file or leaves the disk, and keeps the registry. It makes
    remarks, but looks at none. -/
theorem exists_lint_eq (path : Path) (content : String) (c : Ruleset) (disk : Disk)
    (engine : RuleEngine) (messages : List String) :
    ∃ outcome d after, ∃ told : Trace → Trace,
      (∀ trace, lint path content c ⟨disk, engine, trace, messages⟩ =
        (outcome, ⟨d, after, told trace, messages⟩)) ∧
      after.registry = engine.registry ∧ (d = disk ∨ ∃ s, disk.writeText path s = .ok d) := by
  -- Only the branch that writes what has been fixed changes the disk.
  by_cases hexcluded : c.config.excludes path
  · simp only [lint, if_pos hexcluded, Run.note_apply]
    exact ⟨_, _, _, _, fun _ => rfl, rfl, .inl rfl⟩
  rw [Bool.not_eq_true] at hexcluded
  simp only [lint_apply hexcluded, lintText_apply]
  split_ifs
  · cases Fixing.apply content (c.check engine.registry path content) with
    | none => exact ⟨_, _, _, _, fun _ => rfl, rfl, .inl rfl⟩
    | some fixed =>
      dsimp only
      split_ifs
      · cases hwrite : disk.writeText path fixed.content with
        | error e => exact ⟨_, _, _, _, fun _ => rfl, rfl, .inl rfl⟩
        | ok d => exact ⟨_, _, _, _, fun _ => rfl, rfl, .inr ⟨_, hwrite⟩⟩
      · exact ⟨_, _, _, _, fun _ => rfl, rfl, .inl rfl⟩
  · exact ⟨_, _, _, _, fun _ => rfl, rfl, .inl rfl⟩

/-- Linting comes to the same under rules that are alike, in worlds that differ in nothing but the
    trace. -/
theorem lint_agrees (h : w.Agrees w') (halike : c.Alike c') (path : Path) (content : String) :
    (lint path content c w).1 = (lint path content c' w').1 ∧
      (lint path content c w).2.Agrees (lint path content c' w').2 := by
  rw [← lint_alike halike]
  obtain ⟨disk, engine, trace, messages⟩ := w
  obtain ⟨disk', engine', trace', messages'⟩ := w'
  obtain ⟨rfl, rfl, rfl⟩ := h
  obtain ⟨outcome, d, after, told, hlint, -⟩ :=
    exists_lint_eq path content c disk engine messages
  rw [hlint, hlint]
  exact ⟨rfl, rfl, rfl, rfl⟩

/-- Linting a file that exists changes no other file, and keeps the registry. -/
theorem Since.lint (h : Since start places w) (hfile : start.disk.isFile path)
    (hplaces : ∀ place, start.disk.At path place → places place) (content : String) (c : Ruleset) :
    Since start places (lint path content c w).2 := by
  obtain ⟨disk, engine, trace, messages⟩ := w
  obtain ⟨outcome, d, after, told, hlint, hregistry, hd⟩ :=
    exists_lint_eq path content c disk engine messages
  rw [hlint]
  refine ⟨h.rewrites.trans ?_, hregistry.trans h.registry_eq⟩
  rcases hd with rfl | ⟨s, hwrite⟩
  · exact .refl d
  · have hfile' : disk.isFile path := h.rewrites.isFile_eq path ▸ hfile
    obtain ⟨place, hat, hrewrites⟩ := Disk.rewrites_of_writeText hfile' hwrite
    exact hrewrites.mono fun _ heq => heq ▸ hplaces place (h.rewrites.at_iff.1 hat)

/-- Linting a file under rules that are alike. -/
theorem fileTranscript_agree (project : Option Project) (hfile : start.disk.isFile file)
    (hplaces : ∀ place, start.disk.At file place → places place) (hsince : Since start places w)
    (h : w.Agrees w') (halike : c.Alike c') :
    Agree start places (ruleEngine.fileTranscript project c file w)
      (ruleEngine.fileTranscript project c' file w') := by
  have hnoted : ∀ e, (w.noted e).Agrees (w'.noted e) := fun _ =>
    ⟨h.disk_eq, h.engine_eq, h.messages_eq⟩
  have hsinceNoted : ∀ e, Since start places (w.noted e) := fun _ => ⟨hsince.1, hsince.2⟩
  rw [Engine.fileTranscript, Engine.fileTranscript, ← h.disk_eq]
  cases textToLint w.disk project file with
  | error e => exact ⟨rfl, h, .nil, hsince⟩
  | ok text =>
    cases text with
    | none => exact ⟨rfl, hnoted _, .nil, hsinceNoted _⟩
    | some text =>
      obtain ⟨houtcome, hworld⟩ := lint_agrees (hnoted _) halike file text
      exact ⟨houtcome, hworld, .cons ⟨rfl, rfl, halike⟩ .nil,
        (hsinceNoted _).lint hfile hplaces text c⟩

end RuleEngine

end Autofix
