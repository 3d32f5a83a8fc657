import Autofix.LintError
import Autofix.Traced

/-!
# The world of a run

What a run changes: the disk, the state of the engine that lints, the trace of remarks and the
messages handed to whoever wants to see reports.
-/

namespace Autofix

/-- The world of a run with an engine whose states are `σ`. -/
structure World (σ : Type) where
  disk : Disk
  engine : σ
  trace : Trace := []
  messages : List String := []

/-- The world after a remark. -/
def World.noted {σ : Type} (w : World σ) (e : Event) : World σ :=
  { w with trace := w.trace ++ [e] }

/-- A step of a run, which may end it with an error. What happened before the error stays. -/
abbrev Run (σ : Type) := ExceptT LintError (StateM (World σ))

namespace Run

variable {σ α : Type}

def disk : Run σ Disk := return (← get).disk

/-- Makes a remark. -/
def note (e : Event) : Run σ Unit := modify (·.noted e)

/-- Makes remarks. -/
def notes (t : Trace) : Run σ Unit := modify fun w => { w with trace := w.trace ++ t }

/-- Hands a message to whoever wants to see reports. -/
def log (message : String) : Run σ Unit :=
  modify fun w => { w with messages := w.messages ++ [message] }

def ofExcept (r : Except LintError α) : Run σ α := fun w => (r, w)

/-- Reads from the disk. -/
def read (x : Disk → Traced LintError α) : Run σ α := do
  let x := x (← disk)
  notes x.trace
  ofExcept x.result

/-- Writes a text to the disk. -/
def write (path : Path) (text : String) : Run σ Unit := do
  let d ← ofExcept (((← disk).writeText path text).mapError .io)
  modify fun w => { w with disk := d }

/-! ### Steps from a world -/

variable {β : Type} (w : World σ)

@[simp] theorem pure_apply (a : α) : (pure a : Run σ α) w = (.ok a, w) := rfl

@[simp] theorem throw_apply (e : LintError) : (throw e : Run σ α) w = (.error e, w) := rfl

/-- A step goes on from the world that the one before has left, unless that ended the run. -/
theorem bind_apply (x : Run σ α) (f : α → Run σ β) :
    (x >>= f) w = match x w with
      | (.ok a, w') => f a w'
      | (.error e, w') => (.error e, w') := by
  change (let (r, w') := x w; ExceptT.bindCont f r w') = _
  rcases x w with ⟨_ | _, _⟩ <;> rfl

@[simp] theorem get_apply : (get : Run σ (World σ)) w = (.ok w, w) := rfl

@[simp] theorem modify_apply (f : World σ → World σ) :
    (modify f : Run σ Unit) w = (.ok (), f w) := rfl

@[simp] theorem disk_apply : (disk : Run σ Disk) w = (.ok w.disk, w) := rfl

@[simp] theorem note_apply (e : Event) : note e w = (.ok (), w.noted e) := rfl

@[simp] theorem notes_apply (t : Trace) :
    notes t w = (.ok (), { w with trace := w.trace ++ t }) := rfl

@[simp] theorem ofExcept_apply (r : Except LintError α) : ofExcept r w = (r, w) := rfl

theorem write_apply (path : Path) (text : String) :
    write path text w = match w.disk.writeText path text with
      | .ok d => (.ok (), { w with disk := d })
      | .error e => (.error (.io e), w) := by
  simp only [write, bind_apply, disk_apply, ofExcept_apply]
  cases w.disk.writeText path text <;> rfl

end Run

end Autofix
