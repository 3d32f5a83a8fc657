import Autofix.Json.Printer
import Autofix.Json.Reader
import Autofix.Proofs.Dictionary
import Mathlib.Algebra.Ring.Int.Defs
import Mathlib.Data.List.TakeDrop

/-!
# What is read where something has been written

The pieces that compact texts are made of are read as what they have been written for, whatever
follows them: an escaped character (`escaped_cases`) and an integer (`unsigned_toDigits`,
`ofNumberText_toString`). A reader gives the fields of each object in the order of their names, so
that what it gives for a value is the value with these put in order (`Json.sorted`), whatever order
they have been written in (`sorted_record_of_perm`).
-/

namespace Autofix.Json

/-! ### Values -/

/-- In a value, each number is an integer of 64 bits, with or without sign. -/
inductive Integral : Json → Prop
  | null : Integral .null
  | bool (b : Bool) : Integral (.bool b)
  | number {i : Int} (hlow : -2 ^ 63 ≤ i) (hhigh : i < 2 ^ 64) : Integral (.number (.integer i))
  | string (s : String) : Integral (.string s)
  | array {items : List Json} (h : ∀ v ∈ items, Integral v) : Integral (.array items)
  | record {fields : List (String × Json)} (h : ∀ a ∈ fields, Integral a.2) :
      Integral (.record fields)

mutual

/-- A value with the fields of each object in the order of their names. -/
def sorted : Json → Json
  | .array items => .array (sortedItems items)
  | .record fields => object (sortedFields fields)
  | .null => .null
  | .bool b => .bool b
  | .number n => .number n
  | .string s => .string s

def sortedItems : List Json → List Json
  | [] => []
  | item :: rest => item.sorted :: sortedItems rest

def sortedFields : List (String × Json) → List (String × Json)
  | [] => []
  | (name, value) :: rest => (name, value.sorted) :: sortedFields rest

end

theorem sortedItems_eq (items : List Json) : sortedItems items = items.map sorted := by
  induction items with
  | nil => rfl
  | cons item items ih => rw [sortedItems, ih, List.map_cons]

theorem sortedFields_eq (fields : List (String × Json)) :
    sortedFields fields = fields.map fun a => (a.1, a.2.sorted) := by
  induction fields with
  | nil => rfl
  | cons field fields ih => rw [sortedFields, ih, List.map_cons]

/-! ### Fields -/

theorem sorted_record_of_perm {fields d : List (String × Json)} (hd : Dictionary.Ascending d)
    (hperm : (fields.map fun a => (a.1, a.2.sorted)).Perm d) : (record fields).sorted = .record d := by
  rw [sorted, sortedFields_eq, object, hd.ofList_eq_of_perm hperm]

section

variable {α : Type} {name : String} {toJson : α → Json}

/-- A field that is left out where there is no value. -/
def optionalField (name : String) (toJson : α → Json) (a : Option α) : List (String × Json) :=
  (a.map fun a => (name, toJson a)).toList

theorem names_optionalField (a : Option α) :
    ((optionalField name toJson a).map (·.1)).Sublist [name] := by
  cases a with
  | none => exact List.nil_sublist _
  | some a => exact .refl _

theorem map_optionalField (f : Json → Json) (a : Option α) :
    (optionalField name toJson a).map (fun b => (b.1, f b.2)) =
      optionalField name (fun a => f (toJson a)) a := by
  cases a <;> rfl

end

/-! ### Strings -/

/-- Four hexadecimal digits of a number. -/
def AreFour (digits : List Char) (n : Nat) : Prop :=
  digits.length = 4 ∧ digits.all isHexDigit ∧ hexNumber digits = n

instance (digits : List Char) (n : Nat) : Decidable (AreFour digits n) :=
  inferInstanceAs (Decidable (_ ∧ _ ∧ _))

theorem areFour_of_lt_16 : ∀ n < 16, AreFour (['0', '0', '0'] ++ Text.hexDigits n) n := by decide

theorem areFour_of_lt_32 : ∀ n < 32, 16 ≤ n → AreFour (['0', '0'] ++ Text.hexDigits n) n := by
  decide

/-- The digits of a character that is no half of a surrogate pair are read as this character. -/
theorem escape_four {c : Char} {digits : List Char} (h : AreFour digits c.toNat)
    (hc : c.toNat < 0xD800) (place : Nat) (rest : List Char) :
    escape '"' place ('u' :: digits ++ rest) = .ok (c, rest) := by
  obtain ⟨hlength, hhex, hnumber⟩ := h
  have hfour : hexFour place (digits ++ rest) = .ok (digits, rest) := by
    rw [hexFour, List.take_left' hlength, List.drop_left' hlength]
    exact if_pos ⟨hlength, hhex⟩
  have hescape : escape '"' place ('u' :: digits ++ rest) = codePoint place (digits ++ rest) := rfl
  rw [hescape, codePoint, hfour]
  simp only [bind, Except.bind, hnumber]
  rw [if_neg (by omega), if_neg (by omega), Char.ofNat_toNat]

/-- The characters that are escaped by a letter or a mark, with this one. -/
def shortEscapes : List (Char × Char) :=
  [('"', '"'), ('\\', '\\'), ('\x08', 'b'), ('\t', 't'), ('\n', 'n'), ('\x0c', 'f'), ('\r', 'r')]

theorem escape_shortEscapes : ∀ a ∈ shortEscapes, escaped a.1 = ['\\', a.2] ∧
    ∀ place rest, escape '"' place (a.2 :: rest) = .ok (a.1, rest) := by
  simp only [shortEscapes, List.forall_mem_cons]
  exact ⟨⟨rfl, fun _ _ => rfl⟩, ⟨rfl, fun _ _ => rfl⟩, ⟨rfl, fun _ _ => rfl⟩,
    ⟨rfl, fun _ _ => rfl⟩, ⟨rfl, fun _ _ => rfl⟩, ⟨rfl, fun _ _ => rfl⟩, ⟨rfl, fun _ _ => rfl⟩,
    List.forall_mem_nil _⟩

/-- A character is written as it is, unless it is a quote, a backslash or a control, or else as an
    escape sequence, which is read as the character. -/
theorem escaped_cases (c : Char) :
    (escaped c = [c] ∧ c ≠ '"' ∧ c ≠ '\\' ∧ 32 ≤ c.toNat) ∨
    ∃ body, body ≠ [] ∧ escaped c = '\\' :: body ∧
      ∀ place rest, escape '"' place (body ++ rest) = .ok (c, rest) := by
  by_cases hshort : c ∈ shortEscapes.map (·.1)
  · obtain ⟨⟨c, letter⟩, hmem, rfl⟩ := List.mem_map.1 hshort
    obtain ⟨heq, hescape⟩ := escape_shortEscapes _ hmem
    exact .inr ⟨[letter], List.cons_ne_nil _ _, heq, hescape⟩
  · simp only [shortEscapes, List.map_cons, List.map_nil, List.mem_cons, not_or] at hshort
    obtain ⟨hquote, hback, hb, ht, hn, hf, hr, -⟩ := hshort
    rw [escaped, if_neg hquote, if_neg hback, if_neg hb, if_neg ht, if_neg hn, if_neg hf, if_neg hr]
    split_ifs with hsmall hcontrol
    · exact .inr ⟨_, List.cons_ne_nil _ _, rfl,
        escape_four (areFour_of_lt_16 c.toNat hsmall) (by omega)⟩
    · exact .inr ⟨_, List.cons_ne_nil _ _, rfl,
        escape_four (areFour_of_lt_32 c.toNat hcontrol (Nat.le_of_not_lt hsmall)) (by omega)⟩
    · exact .inl ⟨rfl, hquote, hback, Nat.le_of_not_lt hcontrol⟩

/-! ### Numbers -/

/-- What may follow a number or a keyword in a compact text. -/
def Delimited (rest : List Char) : Prop := ∀ c ∈ rest.head?, c = ',' ∨ c = ']' ∨ c = '\x7d'

theorem delimited_nil : Delimited [] := by simp [Delimited]

theorem delimited_cons {c : Char} (h : c = ',' ∨ c = ']' ∨ c = '\x7d') (rest : List Char) :
    Delimited (c :: rest) := by
  simpa [Delimited] using h

variable {rest : List Char}

/-- A number starts with a digit, which is zero only if it is the only one. -/
theorem exists_toDigits (n : Nat) : ∃ d ds, Nat.toDigits 10 n = d :: ds ∧
    (∀ c ∈ d :: ds, c.isDigit) ∧ (d = '0' → ds = []) := by
  have hdigits : ∀ c ∈ Nat.toDigits 10 n, c.isDigit := fun c =>
    Nat.isDigit_of_mem_toDigits (by decide) (by decide)
  suffices h : ∃ d ds, Nat.toDigits 10 n = d :: ds ∧ (d = '0' → n = 0 ∧ ds = []) by
    obtain ⟨d, ds, heq, hzero⟩ := h
    exact ⟨d, ds, heq, heq ▸ hdigits, fun hd => (hzero hd).2⟩
  clear hdigits
  induction n using Nat.strongRecOn with
  | ind n ih =>
    rw [Nat.toDigits_eq_if (by decide)]
    split_ifs with hlt
    · have hdigit : ∀ n < 10, n.digitChar = '0' → n = 0 := by decide
      exact ⟨_, [], rfl, fun hd => ⟨hdigit n hlt hd, rfl⟩⟩
    · obtain ⟨d, ds, heq, hzero⟩ := ih (n / 10) (by omega)
      refine ⟨d, ds ++ [(n % 10).digitChar], by rw [heq]; rfl, fun hd => ?_⟩
      have hnil := (hzero hd).1
      omega

theorem digits_append {ds : List Char} (hds : ∀ c ∈ ds, c.isDigit) (hrest : Delimited rest) :
    digits (ds ++ rest) = (ds, rest) := by
  have hnone : rest.takeWhile Char.isDigit = [] := by
    cases rest with
    | nil => rfl
    | cons c rest =>
      refine List.takeWhile_cons_of_neg ?_
      rcases hrest c rfl with rfl | rfl | rfl <;> decide
  have hall : rest.dropWhile Char.isDigit = rest := by
    have happend := List.takeWhile_append_dropWhile (p := Char.isDigit) (l := rest)
    rwa [hnone, List.nil_append] at happend
  rw [digits, List.span_eq_takeWhile_dropWhile, List.takeWhile_append_of_pos hds,
    List.dropWhile_append_of_pos hds, hnone, hall, List.append_nil]

theorem unsigned_toDigits (n : Nat) (hrest : Delimited rest) (place : Nat) :
    unsigned place (Nat.toDigits 10 n ++ rest) = .ok (Nat.toDigits 10 n, rest) := by
  obtain ⟨d, ds, heq, hdigits, hzero⟩ := exists_toDigits n
  obtain ⟨hd, hds⟩ := List.forall_mem_cons.1 hdigits
  rw [heq]
  unfold unsigned
  -- A number that starts with a zero is zero; any other one goes on with digits.
  by_cases h0 : d = '0'
  · obtain rfl := hzero h0
    subst h0
    cases rest with
    | nil => rfl
    | cons c rest =>
      rcases hrest c rfl with rfl | rfl | rfl <;> rfl
  · have hrange : '1' ≤ d ∧ d ≤ '9' := by
      have hne : d.toNat ≠ 48 := fun hnat => h0 (Char.toNat_inj.1 hnat)
      obtain ⟨hlow, hhigh⟩ := Char.isDigit_iff_toNat.1 hd
      have hone : 49 ≤ d.toNat := Nat.lt_of_le_of_ne hlow hne.symm
      exact ⟨Char.le_def.2 (UInt32.le_iff_toNat_le.2 hone),
        Char.le_def.2 (UInt32.le_iff_toNat_le.2 hhigh)⟩
    rw [List.cons_append]
    split
    · rename_i hcons
      exact absurd (List.cons.inj hcons).1 h0
    · rename_i hcons
      exact absurd (List.cons.inj hcons).1 h0
    · rename_i c more _ _ hcons
      obtain ⟨rfl, rfl⟩ := List.cons.inj hcons
      rw [if_pos hrange, digits_append hds hrest]
      cases rest with
      | nil => rfl
      | cons c rest =>
        rcases hrest c rfl with rfl | rfl | rfl <;> rfl
    · rename_i hcons
      cases hcons

theorem le_ofDigitChars (ds : List Char) (m : Nat) : m ≤ Nat.ofDigitChars 10 ds m := by
  induction ds generalizing m with
  | nil => exact Nat.le_refl m
  | cons d ds ih => exact Nat.le_trans (by omega) (ih (10 * m + (d.toNat - '0'.toNat)))

/-- Digits are all read if the number stays below `2 ^ 64`. -/
theorem significand_eq {ds : List Char} {m : Nat} (h : Nat.ofDigitChars 10 ds m < 2 ^ 64) :
    significand m ds = (Nat.ofDigitChars 10 ds m, []) := by
  induction ds generalizing m with
  | nil => rfl
  | cons d ds ih =>
    have hnext : m * 10 + (d.toNat - 48) = 10 * m + (d.toNat - '0'.toNat) := by
      rw [Nat.mul_comm]
      rfl
    have hlt : m * 10 + (d.toNat - 48) < Nat.pow 2 64 :=
      Nat.lt_of_le_of_lt (hnext ▸ le_ofDigitChars ds _) h
    rw [significand]
    exact (if_pos hlt).trans (hnext ▸ ih h)

/-- What is read of the digits of a number, behind its sign. -/
theorem decimal_toDigits {n : Nat} (hn : n < 2 ^ 64) {negative : Bool}
    (hsign : negative → 0 < n ∧ n ≤ 2 ^ 63) (text : String) :
    ofNumberText.decimal negative (Nat.toDigits 10 n) text =
      .number (.integer (if negative then -(n : Int) else n)) := by
  have hall : ∀ c ∈ Nat.toDigits 10 n, c.isDigit := fun c =>
    Nat.isDigit_of_mem_toDigits (by decide) (by decide)
  have hdigits : digits (Nat.toDigits 10 n) = (Nat.toDigits 10 n, []) := by
    have happend := digits_append hall delimited_nil
    rwa [List.append_nil] at happend
  have hvalue : Nat.ofDigitChars 10 (Nat.toDigits 10 n) 0 = n :=
    Nat.ofDigitChars_toDigits (by decide) (by decide)
  have hnumber : decimalNumber? negative (Nat.toDigits 10 n) none none =
      some (.integer (if negative then -(n : Int) else n)) := by
    rw [decimalNumber?, significand_eq (by rwa [hvalue]), hvalue]
    refine if_pos ⟨rfl, rfl, rfl, ?_⟩
    cases negative with
    | false => exact .inl rfl
    | true => exact .inr (hsign rfl)
  simp only [ofNumberText.decimal, hdigits, hnumber]

theorem toList_toString (i : Int) : (toString i).toList =
    if 0 ≤ i then Nat.toDigits 10 i.toNat else '-' :: Nat.toDigits 10 (-i).toNat := by
  have hrepr : toString i = i.repr := rfl
  rw [hrepr, Int.repr_eq_if]
  split_ifs
  · exact Nat.toList_repr
  · rw [String.toList_append, Nat.toList_repr]
    rfl

/-- An integer starts with a digit or a sign. -/
theorem exists_toString (i : Int) :
    ∃ c cs, (toString i).toList = c :: cs ∧ (c.isDigit ∨ c = '-') := by
  have htext := toList_toString i
  split_ifs at htext
  · obtain ⟨d, ds, heq, hdigits, -⟩ := exists_toDigits i.toNat
    exact ⟨d, ds, htext.trans heq, .inl (hdigits d List.mem_cons_self)⟩
  · exact ⟨'-', _, htext, .inr rfl⟩

theorem ne_of_starts {c d : Char} (hc : c.isDigit ∨ c = '-') (hd : d.isDigit = false ∧ d ≠ '-') :
    c ≠ d := by
  rintro rfl
  rcases hc with hdigit | rfl
  · exact Bool.false_ne_true (hd.1.symm.trans hdigit)
  · exact hd.2 rfl

/-- Behind the sign, the digits of an integer are read as a decimal. -/
theorem ofNumberText_eq {text : String} {n : Nat}
    (h : text.toList.dropWhile (fun c => c = '-' || c = '+') = Nat.toDigits 10 n) :
    ofNumberText text =
      ofNumberText.decimal (text.toList.head? = some '-') (Nat.toDigits 10 n) text := by
  obtain ⟨d, ds, heq, -, hzero⟩ := exists_toDigits n
  rw [ofNumberText]
  dsimp only
  rw [h, heq]
  split
  · rename_i hcons
    obtain ⟨rfl, rfl⟩ := List.cons.inj hcons
    cases hzero rfl
  · rfl

/-- The text of an integer of 64 bits is read as this integer. -/
theorem ofNumberText_toString {i : Int} (hlow : -2 ^ 63 ≤ i) (hhigh : i < 2 ^ 64) :
    ofNumberText (toString i) = .number (.integer i) := by
  -- What is left without signs are the digits, none of which is a sign.
  have hsign : ∀ n, (Nat.toDigits 10 n).dropWhile (fun c => c = '-' || c = '+') =
      Nat.toDigits 10 n ∧ (Nat.toDigits 10 n).head? ≠ some '-' := by
    intro n
    obtain ⟨d, ds, heq, hdigits, -⟩ := exists_toDigits n
    have hd := hdigits d List.mem_cons_self
    have hne : d ≠ '-' ∧ d ≠ '+' := by
      constructor <;> rintro rfl <;> exact absurd hd (by decide)
    rw [heq]
    exact ⟨List.dropWhile_cons_of_neg (by simp [hne]), fun h => hne.1 (Option.some.inj h)⟩
  have htext := toList_toString i
  split_ifs at htext with hi
  · obtain ⟨hdrop, hhead⟩ := hsign i.toNat
    have hbody : (toString i).toList.dropWhile (fun c => c = '-' || c = '+') =
        Nat.toDigits 10 i.toNat := by rw [htext, hdrop]
    rw [ofNumberText_eq hbody, htext, decide_eq_false hhead,
      decimal_toDigits (by omega) (fun h => absurd h Bool.false_ne_true)]
    exact congrArg _ (congrArg _ (Int.toNat_of_nonneg hi))
  · obtain ⟨hdrop, -⟩ := hsign (-i).toNat
    have hbody : (toString i).toList.dropWhile (fun c => c = '-' || c = '+') =
        Nat.toDigits 10 (-i).toNat := by
      rw [htext, List.dropWhile_cons_of_pos (by decide), hdrop]
    rw [ofNumberText_eq hbody, htext, List.head?_cons, decide_eq_true rfl,
      decimal_toDigits (by omega) (fun _ => by omega), if_pos rfl]
    exact congrArg _ (congrArg _ (by omega))

end Autofix.Json
