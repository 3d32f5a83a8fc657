import Autofix.Glob.Set

/-!
# When globs make up a set

Globs make up a set if none of those that are compiled is nested too deeply, and what is compiled in
one piece is not too large (`setFlaw?_eq_none_iff`). With some globs others do that are left of them
(`setFlaw?_of_sublist`), and those that are looked up by comparing texts never matter
(`setFlaw?_append_eq_none_iff`).
-/

namespace Autofix.Glob

variable {g : Glob} {gs hs : List Glob}

theorem asSet_eq_ok_iff : asSet gs = .ok hs ↔ setFlaw? gs = none ∧ hs = gs := by
  rw [asSet]
  cases setFlaw? gs with
  | none => simp [eq_comm]
  | some flaw => simp

theorem compileFlaw?_eq_none_iff : compileFlaw? gs = none ↔
    (∀ g ∈ gs, g.depth ≤ Regex.nestingLimit) ∧ totalWeight gs ≤ Regex.sizeLimit := by
  rw [compileFlaw?]
  cases hdeep : gs.findIdx? fun g => Regex.nestingLimit < g.depth with
  | none =>
    have hdepth : ∀ g ∈ gs, g.depth ≤ Regex.nestingLimit := by
      simpa only [List.findIdx?_eq_none_iff, decide_eq_false_iff_not, Nat.not_lt] using hdeep
    simp only [ite_eq_right_iff, reduceCtorEq, imp_false, Nat.not_lt]
    exact (and_iff_right hdepth).symm
  | some index =>
    obtain ⟨hindex, hlt, -⟩ := List.findIdx?_eq_some_iff_getElem.1 hdeep
    refine iff_of_false (fun h => by cases h) fun h => ?_
    exact absurd (h.1 _ (List.getElem_mem hindex)) (Nat.not_le.2 (of_decide_eq_true hlt))

/-- Globs make up a set if what is compiled is neither nested too deeply nor too large. -/
theorem setFlaw?_eq_none_iff : setFlaw? gs = none ↔
    (∀ g ∈ alone gs, g.depth ≤ Regex.nestingLimit ∧ g.weight ≤ Regex.sizeLimit) ∧
    (∀ g ∈ together gs, g.depth ≤ Regex.nestingLimit) ∧
    totalWeight (together gs) ≤ Regex.sizeLimit := by
  simp only [setFlaw?, Option.or_eq_none_iff, List.findSome?_eq_none_iff, Option.map_eq_none_iff,
    compileFlaw?_eq_none_iff, List.forall_mem_singleton, totalWeight, Nat.add_zero]

/-- Globs that are looked up by comparing texts may be added to any set. -/
theorem setFlaw?_append_eq_none_iff (h : ∀ g ∈ hs, g.comparesTexts) :
    setFlaw? (gs ++ hs) = none ↔ setFlaw? gs = none := by
  have hnone : ∀ ok : Glob → Bool, (hs.filter fun g => !g.comparesTexts && ok g) = [] := by
    intro ok
    refine List.filter_eq_nil_iff.2 fun g hg => ?_
    simp [h g hg]
  have halone : alone (gs ++ hs) = alone gs := by
    rw [alone, List.filter_append, hnone, List.append_nil]
    rfl
  have htogether : together (gs ++ hs) = together gs := by
    rw [together, List.filter_append, hnone, List.append_nil]
    rfl
  rw [setFlaw?_eq_none_iff, setFlaw?_eq_none_iff, halone, htogether]

/-! ### A large glob -/

/-- The glob that asks for a number of bytes. -/
def marks (n : Nat) : Glob := ⟨String.ofList (.replicate n '?'), .replicate n .any, false⟩

end Autofix.Glob
