import Autofix.Trace

/-!
# Results with a trace

A computation that only reads: what it comes to, a value or an error, and the remarks made on the
way, up to the error if there is one.
-/

namespace Autofix

/-- Two steps come to a value if the first one does and the second one does from there. -/
theorem bind_eq_ok_iff {ε α β : Type} {x : Except ε α} {f : α → Except ε β} {b : β} :
    (x >>= f) = .ok b ↔ ∃ a, x = .ok a ∧ f a = .ok b := by
  cases x with
  | error e => exact ⟨nofun, nofun⟩
  | ok a => exact ⟨fun h => ⟨a, rfl, h⟩, fun ⟨_, rfl, h⟩ => h⟩

/-- Errors told in another way are errors all the same. -/
theorem mapError_eq_ok_iff {ε ε' α : Type} {f : ε → ε'} {x : Except ε α} {a : α} :
    x.mapError f = .ok a ↔ x = .ok a := by
  cases x with
  | error e => exact iff_of_false (fun h => by cases h) (fun h => by cases h)
  | ok b =>
    constructor
    · rintro ⟨⟩
      rfl
    · rintro ⟨⟩
      rfl

structure Traced (ε α : Type) where
  result : Except ε α
  trace : Trace

namespace Traced

variable {ε ε' α β : Type}

instance : Monad (Traced ε) where
  pure a := ⟨.ok a, []⟩
  bind x f :=
    match x.result with
    | .ok a => ⟨(f a).result, x.trace ++ (f a).trace⟩
    | .error e => ⟨.error e, x.trace⟩

/-- A result without remarks. -/
def ofExcept (r : Except ε α) : Traced ε α := ⟨r, []⟩

def fail (e : ε) : Traced ε α := ⟨.error e, []⟩

/-- Makes a remark. -/
def note (e : Event) : Traced ε Unit := ⟨.ok (), [e]⟩

/-- Makes remarks. -/
def notes (t : Trace) : Traced ε Unit := ⟨.ok (), t⟩

def mapError (f : ε → ε') (x : Traced ε α) : Traced ε' α := ⟨x.result.mapError f, x.trace⟩

/-! ### Results without their trace -/

@[simp] theorem pure_result (a : α) : (pure a : Traced ε α).result = .ok a := rfl

@[simp] theorem fail_result (e : ε) : (fail e : Traced ε α).result = .error e := rfl

@[simp] theorem note_result (e : Event) : (note e : Traced ε Unit).result = .ok () := rfl

@[simp] theorem ofExcept_result (r : Except ε α) : (ofExcept r).result = r := rfl

theorem bind_result (x : Traced ε α) (f : α → Traced ε β) :
    (x >>= f).result = x.result >>= fun a => (f a).result := by
  change (match x.result with
    | .ok a => ⟨(f a).result, x.trace ++ (f a).trace⟩
    | .error e => ⟨.error e, x.trace⟩ : Traced ε β).result = _
  cases x.result <;> rfl

end Traced

end Autofix
