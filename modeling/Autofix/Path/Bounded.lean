import Autofix.Path

/-!
# Paths of bounded size

Only paths of less than `Path.sizeLimit` bytes can be looked up (`Path.isShort`). There are finitely
many of them, so that whoever goes from path to path, and never to one whose normal form has been
met before, comes to an end: `Path.unmet` counts the normal forms that are left, and each step makes
it smaller (`unmet_cons_lt`).
-/

namespace Autofix

namespace Text

/-- The number of bytes of a text is what its string says. -/
theorem size_toList (s : String) : size s.toList = s.utf8ByteSize := by
  obtain ⟨cs, rfl⟩ : ∃ cs, s = String.ofList cs := ⟨s.toList, by simp⟩
  rw [String.toList_ofList]
  induction cs with
  | nil => rfl
  | cons c cs ih =>
    rw [show String.ofList (c :: cs) = String.singleton c ++ String.ofList cs from
      String.toList_inj.1 (by simp), String.utf8ByteSize_append, String.utf8ByteSize_singleton,
      ← ih, size]

theorem length_le_size (cs : List Char) : cs.length ≤ size cs := by
  induction cs with
  | nil => exact Nat.le_refl 0
  | cons c cs ih =>
    have pos := c.utf8Size_pos
    simp only [List.length_cons, size]
    omega

/-- All texts of at most `n` characters. -/
def upTo : Nat → List (List Char)
  | 0 => [[]]
  | n + 1 => [] :: (List.range 0x110000).flatMap fun code => (upTo n).map (Char.ofNat code :: ·)

theorem mem_upTo {cs : List Char} {n : Nat} (h : cs.length ≤ n) : cs ∈ upTo n := by
  induction n generalizing cs with
  | zero => simp [upTo, List.eq_nil_of_length_eq_zero (Nat.le_zero.1 h)]
  | succ n ih =>
    cases cs with
    | nil => exact List.mem_cons_self
    | cons c cs =>
      refine List.mem_cons_of_mem _ (List.mem_flatMap.2 ⟨c.toNat, ?_, ?_⟩)
      · rw [List.mem_range]
        rcases c.valid with hlt | ⟨-, hlt⟩
        · exact Nat.lt_trans hlt (by decide)
        · exact hlt
      · rw [Char.ofNat_toNat]
        exact List.mem_map_of_mem (ih (Nat.le_of_succ_le_succ h))

end Text

namespace Path

/-- Paths of this size or more are not looked up. -/
def sizeLimit : Nat := 4096

def isShort (p : Path) : Bool := p.text.utf8ByteSize < sizeLimit

/-- How many of the normal forms of short paths are not among those that have been met. -/
noncomputable def unmet (met : List Path) : Nat :=
  (Text.upTo sizeLimit).countP fun cs => !met.contains (normalize ⟨String.ofList cs⟩)

/-- What fewer elements satisfy, but not all of them, is counted less often. -/
private theorem countP_lt_countP {α : Type} {l : List α} {f g : α → Bool}
    (himp : ∀ a, f a → g a) {a : α} (ha : a ∈ l) (hg : g a) (hf : f a = false) :
    l.countP f < l.countP g := by
  obtain ⟨before, after, rfl⟩ := List.append_of_mem ha
  have hbefore : before.countP f ≤ before.countP g := List.countP_mono_left fun x _ => himp x
  have hafter : after.countP f ≤ after.countP g := List.countP_mono_left fun x _ => himp x
  simp only [List.countP_append, List.countP_cons, hf, hg]
  simp
  omega

/-- With the normal form of a short path that has not been met before, fewer are left. -/
theorem unmet_cons_lt {met : List Path} {p : Path} (hshort : p.isShort)
    (hnew : p.normalize ∉ met) : unmet (p.normalize :: met) < unmet met := by
  have hlength : p.text.toList.length ≤ sizeLimit := by
    have hle := Text.length_le_size p.text.toList
    rw [Text.size_toList] at hle
    have hlt : p.text.utf8ByteSize < sizeLimit := by simpa [isShort] using hshort
    omega
  refine countP_lt_countP (fun cs h => ?_) (Text.mem_upTo hlength) ?_ ?_
  · simp only [List.contains_cons, Bool.not_or, Bool.and_eq_true] at h
    exact h.2
  · simpa using hnew
  · simp

end Path

end Autofix
