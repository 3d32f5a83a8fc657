import Autofix.Proofs.Glob.Set
import Autofix.Proofs.Path.Below
import Mathlib.Data.List.Basic

/-!
# What some globs select

A glob in which every character is escaped has no special characters, and selects the path of that
text and no other one (`selects_literal_iff`). There is such a glob for every path, so that two
different paths are told apart by a glob.

A glob that asks for all that is in folders of some name, however deep, selects whatever has that
name on the way to it (`selects_within`).
-/

namespace Autofix.Glob

/-! ### Bytes -/

theorem bytes_injective : Function.Injective bytes := by
  intro cs ds h
  have hencode : cs.utf8Encode = ds.utf8Encode := congrArg List.toByteArray h
  have hdecode := congrArg ByteArray.utf8Decode? hencode
  rw [List.utf8Decode?_utf8Encode, List.utf8Decode?_utf8Encode] at hdecode
  exact List.toArray_inj (Option.some.inj hdecode)

theorem after?_eq_some_iff {bs text rest : List UInt8} :
    after? bs text = some rest ↔ text = bs ++ rest := by
  fun_induction after? bs text with
  | case1 text => simp
  | case2 bs c cs ih => simp [ih]
  | case3 b bs c cs hne => simp [Ne.symm hne]
  | case4 => simp

/-! ### Globs without special characters -/

/-- A text with a backslash before every character. -/
def escaped (cs : List Char) : List Char := cs.flatMap fun c => ['\\', c]

/-- The glob of the escaped text. -/
def literal (cs : List Char) : Glob := ⟨String.ofList (escaped cs), cs.map .literal, false⟩

theorem read_escaped (cs : List Char) {fuel : Nat} (hfuel : cs.length < fuel) (parts : List Part)
    (previous : Option Char) : read fuel ⟨[parts], []⟩ previous (escaped cs) =
      .ok ⟨[(cs.map Part.literal).reverse ++ parts], []⟩ := by
  induction cs generalizing fuel parts previous with
  | nil =>
    obtain ⟨fuel, rfl⟩ := Nat.exists_eq_add_one_of_ne_zero (Nat.ne_of_gt hfuel)
    rfl
  | cons c cs ih =>
    obtain ⟨fuel, rfl⟩ := Nat.exists_eq_add_one_of_ne_zero (Nat.ne_of_gt (Nat.zero_lt_of_lt hfuel))
    have hstep : read (fuel + 1) ⟨[parts], []⟩ previous (escaped (c :: cs)) =
        read fuel ⟨[.literal c :: parts], []⟩ (some c) (escaped cs) := rfl
    rw [hstep, ih (Nat.lt_of_succ_lt_succ hfuel)]
    simp

/-- The escaped text of a path is a glob that can be read. -/
theorem ofText?_escaped (cs : List Char) :
    ofText? false (String.ofList (escaped cs)) = .ok (literal cs) := by
  have hlength : cs.length ≤ (escaped cs).length := by
    rw [escaped, List.length_flatMap]
    simp
    omega
  have hread : read ((escaped cs).length + 1) ⟨[[]], []⟩ none (escaped cs) = _ :=
    read_escaped cs (by omega) [] none
  simp only [ofText?, String.toList_ofList, hread]
  simp [literal]

/-- It makes up a set. -/
theorem setFlaw?_literal (cs : List Char) : setFlaw? [literal cs] = none := by
  cases cs with
  | nil => rfl
  | cons c cs =>
    refine (@setFlaw?_append_eq_none_iff [] _ (List.forall_mem_singleton.2 ?_)).2 rfl
    have htext : (literal (c :: cs)).isText = true := by
      simp [isText, literal, afterDepth, allLiteral, Part.literal?]
    rw [comparesTexts, htext, Bool.true_or, Bool.true_or]

theorem allAccept_literal (separate : Bool) (cs : List Char) (k : List UInt8 → Bool)
    (text : List UInt8) :
    allAccept separate (cs.map .literal) k text = (after? (bytes cs) text).any k := by
  induction cs generalizing text with
  | nil => simp [allAccept, bytes, after?]
  | cons c cs ih =>
    rw [List.map_cons, allAccept, Part.accepts, Bool.eq_iff_iff]
    simp only [ih, Option.any_eq_true, after?_eq_some_iff]
    constructor
    · rintro ⟨_, rfl, rest, rfl, hk⟩
      exact ⟨rest, by simp [bytes], hk⟩
    · rintro ⟨rest, rfl, hk⟩
      exact ⟨bytes cs ++ rest, by simp [bytes], rest, rfl, hk⟩

/-- The glob of an escaped text selects the path of that text and no other one. -/
theorem selects_literal_iff {cs : List Char} {p : Path} :
    (literal cs).selects p ↔ p.text.toList = cs := by
  have hname : (literal cs).looksAtName = false := by
    have hall : (cs.map Part.literal).all (fun p => p.literal?.isSome) = true := by
      simp [Part.literal?]
    simp only [looksAtName, literal, hall, if_true]
  have hselects : (literal cs).selects p =
      allAccept false (cs.map .literal) List.isEmpty (bytes p.text.toList) := by
    simp only [selects, hname, Bool.and_false, Bool.not_false, Bool.and_true]
    rcases cs with _ | ⟨c, _ | ⟨c', cs⟩⟩ <;> rfl
  rw [hselects, allAccept_literal, Option.any_eq_true]
  simp only [after?_eq_some_iff, List.isEmpty_iff]
  constructor
  · rintro ⟨_, htext, rfl⟩
    exact bytes_injective (by rw [htext, List.append_nil])
  · rintro rfl
    exact ⟨[], by simp, rfl⟩

/-! ### All that is in folders of a name -/

/-- The glob of all that is below folders of a name, which may lie anywhere. -/
def within (name : String) : Glob :=
  ⟨"**/" ++ name ++ "/**", .anyDepth :: (name.toList.map .literal ++ [.descend]), true⟩

theorem allAccept_append (separate : Bool) (ps qs : List Part) (k : List UInt8 → Bool) :
    allAccept separate (ps ++ qs) k = allAccept separate ps (allAccept separate qs k) := by
  induction ps with
  | nil =>
    funext text
    rw [List.nil_append, allAccept.eq_1]
  | cons p ps ih =>
    funext text
    rw [List.cons_append, allAccept, allAccept, ih]

theorem afterRun_of_append {k : List UInt8 → Bool} (run rest : List UInt8)
    (h : k rest) : afterRun (fun _ => true) k (run ++ rest) := by
  induction run with
  | nil => cases rest <;> simp [afterRun, h]
  | cons b run ih => simp [afterRun, ih]

theorem afterSlash_of_append {k : List UInt8 → Bool} (before : List UInt8) {rest : List UInt8}
    (h : k rest) : afterSlash k (before ++ slash :: rest) := by
  induction before with
  | nil => simp [afterSlash, h]
  | cons b before ih => simp [afterSlash, ih]

theorem bytes_append (cs ds : List Char) : bytes (cs ++ ds) = bytes cs ++ bytes ds :=
  List.flatMap_append

theorem bytes_slash_cons (cs : List Char) : bytes ('/' :: cs) = slash :: bytes cs := rfl

/-- What has the name of such a folder on the way to it is selected. -/
theorem selects_within {name : String} {names : List String} (h : name ∈ names.dropLast) :
    (within name).selects (Path.ofNames (names.map String.toList)) := by
  obtain ⟨front, mid, hmid⟩ := List.append_of_mem h
  obtain ⟨tail, htail, rfl⟩ : ∃ tail, tail ≠ [] ∧ names = front ++ name :: tail := by
    have hne : names ≠ [] := by
      rintro rfl
      exact List.not_mem_nil h
    refine ⟨mid ++ [names.getLast hne], by simp, ?_⟩
    rw [← List.cons_append, ← List.append_assoc, ← hmid, List.dropLast_append_getLast]
  set k : List UInt8 → Bool :=
    allAccept true (name.toList.map .literal ++ [.descend]) List.isEmpty with hk
  -- From the name on, the literal characters read the name and the rest takes what follows it.
  have hfrom : k (bytes (Path.joinParts ((name :: tail).map String.toList))) := by
    have hrest : tail.map String.toList ≠ [] := by simpa using htail
    rw [List.map_cons, Path.joinParts.eq_3 _ _ hrest, bytes_append, bytes_slash_cons, hk,
      allAccept_append, allAccept_literal, Option.any_eq_true]
    refine ⟨_, after?_eq_some_iff.2 rfl, ?_⟩
    have hdescend := afterRun_of_append (k := List.isEmpty)
      (bytes (Path.joinParts (tail.map String.toList))) [] rfl
    rw [List.append_nil] at hdescend
    simpa [allAccept, Part.accepts, after?] using hdescend
  -- Before the name there is nothing, or something that ends with a separator.
  have hdepth : k (bytes (Path.ofNames ((front ++ name :: tail).map String.toList)).text.toList) ∨
      afterSlash k
        (bytes (Path.ofNames ((front ++ name :: tail).map String.toList)).text.toList) := by
    have htext : (Path.ofNames ((front ++ name :: tail).map String.toList)).text.toList =
        Path.joinParts (front.map String.toList ++ (name :: tail).map String.toList) := by
      rw [Path.ofNames, Path.ofParts, String.toList_ofList, List.map_append]
      rfl
    rw [htext, Path.joinParts_append _ (by simp)]
    rcases List.eq_nil_or_concat' front with rfl | ⟨init, last, rfl⟩
    · exact .inl hfrom
    · refine .inr ?_
      rw [List.map_append, List.map_singleton, List.flatMap_append, List.flatMap_singleton,
        ← List.append_assoc, List.append_assoc, List.singleton_append, bytes_append,
        bytes_slash_cons]
      exact afterSlash_of_append _ hfrom
  have hlast : (Part.anyDepth :: (name.toList.map .literal ++ [.descend])).getLast? =
      some .descend := by
    rw [← List.cons_append, List.getLast?_concat]
  simpa [selects, hlast, within, allAccept, Part.accepts, Part.literal?, hk] using hdepth

end Autofix.Glob
