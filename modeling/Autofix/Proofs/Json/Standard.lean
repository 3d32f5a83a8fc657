import Autofix.Json.Standard
import Autofix.Proofs.Json.Written

/-!
# Compact texts are standard JSON

What has been written in the compact form is standard JSON, and is read back as it was, if its
numbers are integers of 64 bits (`tree?_compact`); a reader that puts the fields in order gives the
value with its fields in order (`parse?_compact`).
-/

namespace Autofix.Json.Standard

/-- The value of a text, if it is standard JSON. The fields of each object are put in order, the
    last one winning where a name stands twice. -/
def parse? (text : String) : Option Json := (tree? text).map sorted

/-! ### Reading compact texts -/

variable {rest : List Char} {v : Json}

theorem after?_cons {c d : Char} (hblank : isBlank d = false) (rest : List Char) :
    after? c (d :: rest) = if d = c then some rest else none := by
  rw [after?, List.dropWhile_cons_of_neg (by simp [hblank])]

theorem stringRest_escaped (cs seen : List Char) {fuel : Nat}
    (h : (cs.flatMap escaped ++ '"' :: rest).length < fuel) :
    stringRest fuel seen (cs.flatMap escaped ++ '"' :: rest) =
      some (String.ofList (seen.reverse ++ cs), rest) := by
  induction cs generalizing fuel seen with
  | nil =>
    obtain ⟨fuel, rfl⟩ := Nat.exists_eq_add_one.2 (Nat.zero_lt_of_lt h)
    simp [stringRest]
  | cons c cs ih =>
    obtain ⟨fuel, rfl⟩ := Nat.exists_eq_add_one.2 (Nat.zero_lt_of_lt h)
    rw [List.flatMap_cons, List.append_assoc] at h ⊢
    rcases escaped_cases c with ⟨heq, hquote, hback, hcontrol⟩ | ⟨body, hbody, heq, hescape⟩
    · rw [heq, List.singleton_append] at h ⊢
      rw [stringRest, if_neg hquote, if_neg hback, if_neg (Nat.not_lt.2 hcontrol),
        ih _ (Nat.lt_of_succ_lt_succ h)]
      simp
    · rw [heq, List.cons_append] at h ⊢
      have hshort : (cs.flatMap escaped ++ '"' :: rest).length < fuel := by
        rw [List.length_cons, List.length_append] at h
        omega
      rw [stringRest, if_neg (by decide), if_pos rfl, hescape]
      dsimp only
      rw [ih _ hshort]
      simp

theorem string?_stringChars (s : String) (rest : List Char) :
    string? (stringChars s ++ rest) = some (s, rest) := by
  have hwritten : stringChars s ++ rest = '"' :: (s.toList.flatMap escaped ++ '"' :: rest) := by
    simp [stringChars]
  rw [hwritten, string?, after?_cons (by decide), if_pos rfl, Option.bind_eq_bind, Option.bind_some,
    stringRest_escaped _ _ (Nat.lt_succ_self _)]
  simp

theorem number?_toString {i : Int} (hlow : -2 ^ 63 ≤ i) (hhigh : i < 2 ^ 64)
    (hrest : Delimited rest) :
    number? ((toString i).toList ++ rest) = some (.number (.integer i), rest) := by
  have hvalue := ofNumberText_toString hlow hhigh
  -- No digit is the mark of a number to another base.
  have hhex : ∀ n, (Nat.toDigits 10 n).any (fun c => c = 'x' || c = 'X') = false := by
    intro n
    rw [List.any_eq_false]
    intro c hc
    have hdigit := Nat.isDigit_of_mem_toDigits (by decide) (by decide) hc
    have hne : c ≠ 'x' ∧ c ≠ 'X' := by
      constructor <;> rintro rfl <;> exact absurd hdigit (by decide)
    simp [hne]
  have htext := toList_toString i
  have hstring : String.ofList (toString i).toList = toString i := String.ofList_toList
  split_ifs at htext with hi
  · obtain ⟨d, ds, heq, hdigits, -⟩ := exists_toDigits i.toNat
    have hd : d ≠ '-' := by
      rintro rfl
      exact absurd (hdigits _ List.mem_cons_self) (by decide)
    have hhead : (Nat.toDigits 10 i.toNat ++ rest).head? ≠ some '-' := by
      rw [heq, List.cons_append, List.head?_cons]
      exact fun h => hd (Option.some.inj h)
    rw [htext] at hstring ⊢
    simp only [number?, hhead, if_false, unsigned_toDigits _ hrest, hhex, List.nil_append, hstring,
      hvalue, Bool.false_eq_true]
  · rw [htext] at hstring ⊢
    simp only [number?, List.cons_append, List.head?_cons, if_true, List.tail_cons,
      unsigned_toDigits _ hrest, hhex, List.nil_append, hstring, hvalue, Bool.false_eq_true, if_false]

theorem string?_cons_of_ne {c : Char} (hblank : isBlank c = false) (hne : c ≠ '"')
    (cs : List Char) : string? (c :: cs) = none := by
  rw [string?, after?_cons hblank, if_neg hne]
  rfl

theorem word?_append (word : String) (rest : List Char) :
    word? word (word.toList ++ rest) = some rest := by
  have hpre : word.toList.isPrefixOf (word.toList ++ rest) :=
    List.isPrefixOf_iff_prefix.2 (List.prefix_append _ _)
  rw [word?, if_pos hpre, ← String.length_toList, List.drop_left]

/-! #### Values -/

theorem isBlank_of_starts {c : Char} (hc : c.isDigit ∨ c = '-') : isBlank c = false := by
  have hne : c ≠ ' ' ∧ c ≠ '\t' ∧ c ≠ '\n' ∧ c ≠ '\r' :=
    ⟨ne_of_starts hc (by decide), ne_of_starts hc (by decide), ne_of_starts hc (by decide),
      ne_of_starts hc (by decide)⟩
  simp [isBlank, hne]

/-- How compact texts start: not with a blank, and not with what closes an array or an object. -/
def Starts (cs : List Char) : Prop :=
  ∃ c rest, cs = c :: rest ∧ isBlank c = false ∧ c ≠ ']' ∧ c ≠ '\x7d'

theorem starts_of_cons {c : Char} {cs : List Char}
    (h : isBlank c = false ∧ c ≠ ']' ∧ c ≠ '\x7d') : Starts (c :: cs) := ⟨c, cs, rfl, h⟩

theorem Starts.append {cs : List Char} (h : Starts cs) (more : List Char) :
    Starts (cs ++ more) := by
  obtain ⟨c, rest, rfl, hc⟩ := h
  exact ⟨c, rest ++ more, rfl, hc⟩

/-- Nothing is closed where a value starts. -/
theorem Starts.after?_eq_none {cs : List Char} (h : Starts cs) :
    after? ']' cs = none ∧ after? '\x7d' cs = none := by
  obtain ⟨c, rest, rfl, hblank, hbracket, hbrace⟩ := h
  rw [after?_cons hblank, after?_cons hblank, if_neg hbracket, if_neg hbrace]
  exact ⟨rfl, rfl⟩

theorem starts_stringChars (s : String) : Starts (stringChars s) := starts_of_cons (by decide)

theorem starts_chars (hv : v.Integral) : Starts v.chars := by
  cases hv with
  | null => exact starts_of_cons (by decide)
  | bool b => cases b <;> exact starts_of_cons (by decide)
  | string s => exact starts_stringChars s
  | array | record => exact starts_of_cons (by decide)
  | @number i _ _ =>
    obtain ⟨c, cs, heq, hc⟩ := exists_toString i
    exact ⟨c, cs, heq, isBlank_of_starts hc, ne_of_starts hc (by decide),
      ne_of_starts hc (by decide)⟩

theorem starts_itemsChars {items : List Json} (h : ∀ v ∈ items, v.Integral) (hne : items ≠ []) :
    Starts (itemsChars items) := by
  obtain ⟨v, items, rfl⟩ := List.exists_cons_of_ne_nil hne
  have hv := starts_chars (h v List.mem_cons_self)
  cases items with
  | nil => exact hv
  | cons next items =>
    rw [itemsChars, List.append_assoc]
    · exact hv.append _
    · exact List.cons_ne_nil _ _

theorem starts_fieldsChars {fields : List (String × Json)} (hne : fields ≠ []) :
    Starts (fieldsChars fields) := by
  obtain ⟨⟨name, v⟩, fields, rfl⟩ := List.exists_cons_of_ne_nil hne
  cases fields with
  | nil =>
    rw [fieldsChars, List.append_assoc]
    exact (starts_stringChars name).append _
  | cons next fields =>
    rw [fieldsChars, List.append_assoc, List.append_assoc, List.append_assoc]
    · exact (starts_stringChars name).append _
    · exact List.cons_ne_nil _ _

/-- A value is read at the start of a text, as long as something delimits it. -/
def Reads (v : Json) : Prop := ∀ fuel rest, Delimited rest → v.chars.length ≤ fuel →
  value fuel (v.chars ++ rest) = some (v, rest)

theorem reads_scalar {c : Char} {cs : List Char} (heq : v.chars = c :: cs)
    (hc : isBlank c = false ∧ c ≠ '[' ∧ c ≠ '\x7b')
    (hscalar : ∀ rest, Delimited rest → scalar? (v.chars ++ rest) = some (v, rest)) :
    Reads v := by
  intro fuel rest hrest hfuel
  have hscalar := hscalar rest hrest
  obtain ⟨hblank, hbracket, hbrace⟩ := hc
  rw [heq, List.cons_append] at hscalar ⊢
  rw [heq] at hfuel
  obtain ⟨fuel, rfl⟩ := Nat.exists_eq_add_one.2
    (Nat.lt_of_lt_of_le (Nat.zero_lt_succ _) hfuel)
  rw [value, after?_cons hblank, after?_cons hblank, if_neg hbracket, if_neg hbrace]
  dsimp only
  rw [List.dropWhile_cons_of_neg (by simp [hblank]), hscalar]

theorem scalar?_null (rest : List Char) : scalar? (Json.null.chars ++ rest) = some (.null, rest) := by
  have hword : word? "null" (Json.null.chars ++ rest) = some rest := word?_append "null" rest
  have hstring : string? (Json.null.chars ++ rest) = none :=
    string?_cons_of_ne (by decide) (by decide) _
  rw [scalar?, hstring, hword]
  rfl

theorem scalar?_bool (b : Bool) (rest : List Char) :
    scalar? ((Json.bool b).chars ++ rest) = some (.bool b, rest) := by
  cases b with
  | true =>
    have hword : word? "true" ((Json.bool true).chars ++ rest) = some rest := word?_append "true" rest
    have hstring : string? ((Json.bool true).chars ++ rest) = none :=
      string?_cons_of_ne (by decide) (by decide) _
    rw [scalar?, hstring, hword]
    rfl
  | false =>
    have hword : word? "false" ((Json.bool false).chars ++ rest) = some rest :=
      word?_append "false" rest
    have hstring : string? ((Json.bool false).chars ++ rest) = none :=
      string?_cons_of_ne (by decide) (by decide) _
    rw [scalar?, hstring, hword]
    rfl

theorem scalar?_integer {i : Int} (hlow : -2 ^ 63 ≤ i) (hhigh : i < 2 ^ 64)
    (hrest : Delimited rest) :
    scalar? ((toString i).toList ++ rest) = some (.number (.integer i), rest) := by
  have hnumber := number?_toString hlow hhigh hrest
  obtain ⟨c, cs, heq, hc⟩ := exists_toString i
  rw [heq, List.cons_append] at hnumber ⊢
  have hword : ∀ word ∈ ["null", "true", "false"], word? word (c :: (cs ++ rest)) = none := by
    intro word hword
    have hfirst : ∀ word ∈ ["null", "true", "false"], ∃ d ds, word.toList = d :: ds ∧
        d.isDigit = false ∧ d ≠ '-' := by
      simp
    obtain ⟨d, ds, hd, hstart⟩ := hfirst word hword
    rw [word?, hd, if_neg]
    simp [List.isPrefixOf, (ne_of_starts hc hstart).symm]
  rw [scalar?, string?_cons_of_ne (isBlank_of_starts hc) (ne_of_starts hc (by decide)),
    hword _ (by simp), hword _ (by simp), hword _ (by simp), hnumber]
  rfl

theorem items_eq {items : List Json} (hne : items ≠ []) (h : ∀ v ∈ items, Reads v) {fuel : Nat}
    (hfuel : (itemsChars items).length < fuel) (rest : List Char) :
    Standard.items fuel (itemsChars items ++ ']' :: rest) = some (items, rest) := by
  induction items generalizing fuel with
  | nil => exact absurd rfl hne
  | cons v items ih =>
    obtain ⟨fuel, rfl⟩ := Nat.exists_eq_add_one.2 (Nat.zero_lt_of_lt hfuel)
    obtain ⟨hv, hitems⟩ := List.forall_mem_cons.1 h
    cases items with
    | nil =>
      have hvalue := hv fuel (']' :: rest) (delimited_cons (.inr (.inl rfl)) rest)
        (Nat.le_of_lt_succ hfuel)
      rw [itemsChars, Standard.items, hvalue]
      rfl
    | cons next items =>
      have hchars : itemsChars (v :: next :: items) ++ ']' :: rest =
          v.chars ++ ',' :: (itemsChars (next :: items) ++ ']' :: rest) := by
        simp [itemsChars]
      -- The comma pays for the round in which the value before it is read.
      have hlength : (itemsChars (v :: next :: items)).length =
          v.chars.length + (itemsChars (next :: items)).length + 1 := by
        simp [itemsChars]
        omega
      have hvalue := hv fuel (',' :: (itemsChars (next :: items) ++ ']' :: rest))
        (delimited_cons (.inl rfl) _) (by omega)
      have hmorefuel : (itemsChars (next :: items)).length < fuel := by omega
      have hmore := ih (List.cons_ne_nil _ _) hitems hmorefuel
      have hcomma : after? ',' (',' :: (itemsChars (next :: items) ++ ']' :: rest)) =
          some (itemsChars (next :: items) ++ ']' :: rest) := rfl
      rw [hchars, Standard.items, hvalue, Option.bind_eq_bind, Option.bind_some]
      dsimp only
      rw [hcomma]
      dsimp only
      rw [hmore]
      rfl

theorem fields_eq {fields : List (String × Json)} (hne : fields ≠ []) (h : ∀ a ∈ fields, Reads a.2)
    {fuel : Nat} (hfuel : (fieldsChars fields).length < fuel) (rest : List Char) :
    Standard.fields fuel (fieldsChars fields ++ '\x7d' :: rest) =
      some (fields, rest) := by
  induction fields generalizing fuel with
  | nil => exact absurd rfl hne
  | cons field fields ih =>
    obtain ⟨name, v⟩ := field
    obtain ⟨fuel, rfl⟩ := Nat.exists_eq_add_one.2 (Nat.zero_lt_of_lt hfuel)
    obtain ⟨hv, hfields⟩ := List.forall_mem_cons.1 h
    have hcolon : ∀ more, after? ':' (':' :: more) = some more := fun _ => rfl
    cases fields with
    | nil =>
      have hchars : fieldsChars [(name, v)] ++ '\x7d' :: rest =
          stringChars name ++ ':' :: (v.chars ++ '\x7d' :: rest) := by
        simp [fieldsChars]
      have hlength : v.chars.length ≤ fuel := by
        simp [fieldsChars] at hfuel
        omega
      have hvalue := hv fuel ('\x7d' :: rest) (delimited_cons (.inr (.inr rfl)) rest) hlength
      rw [hchars, Standard.fields, string?_stringChars]
      simp only [Option.bind_eq_bind, Option.bind_some, hcolon, hvalue]
      rfl
    | cons next fields =>
      have hchars : fieldsChars ((name, v) :: next :: fields) ++ '\x7d' :: rest =
          stringChars name ++
            ':' :: (v.chars ++ ',' :: (fieldsChars (next :: fields) ++ '\x7d' :: rest)) := by
        simp [fieldsChars]
      have hlength : v.chars.length + (fieldsChars (next :: fields)).length < fuel := by
        simp [fieldsChars] at hfuel ⊢
        omega
      have hvfuel : v.chars.length ≤ fuel := by omega
      have hvalue := hv fuel (',' :: (fieldsChars (next :: fields) ++ '\x7d' :: rest))
        (delimited_cons (.inl rfl) _) hvfuel
      have hmorefuel : (fieldsChars (next :: fields)).length < fuel := by omega
      have hmore := ih (List.cons_ne_nil _ _) hfields hmorefuel
      have hcomma : after? ',' (',' :: (fieldsChars (next :: fields) ++ '\x7d' :: rest)) =
          some (fieldsChars (next :: fields) ++ '\x7d' :: rest) := rfl
      rw [hchars, Standard.fields, string?_stringChars]
      simp only [Option.bind_eq_bind, Option.bind_some, hcolon, hvalue, hcomma, hmore]
      rfl

theorem reads_array {items : List Json} (hitems : ∀ v ∈ items, v.Integral)
    (hreads : ∀ v ∈ items, Reads v) : Reads (.array items) := by
  intro fuel rest hrest hfuel
  rw [chars] at hfuel ⊢
  simp only [List.length_append, List.length_singleton] at hfuel
  obtain ⟨fuel, rfl⟩ := Nat.exists_eq_add_one.2 (by omega : 0 < fuel)
  have hopen : after? '[' (['['] ++ itemsChars items ++ [']'] ++ rest) =
      some (itemsChars items ++ ']' :: rest) := by
    simp [after?_cons (by decide : isBlank '[' = false)]
  rw [value, hopen]
  rcases eq_or_ne items [] with rfl | hne
  · rfl
  · have hread := items_eq hne hreads (by omega : (itemsChars items).length < fuel) rest
    dsimp only
    rw [((starts_itemsChars hitems hne).append _).after?_eq_none.1, hread]
    rfl

theorem reads_record {fields : List (String × Json)}
    (hreads : ∀ field ∈ fields, Reads field.2) : Reads (.record fields) := by
  intro fuel rest hrest hfuel
  rw [chars] at hfuel ⊢
  simp only [List.length_append, List.length_singleton] at hfuel
  obtain ⟨fuel, rfl⟩ := Nat.exists_eq_add_one.2 (by omega : 0 < fuel)
  have hopen : after? '\x7b' (['\x7b'] ++ fieldsChars fields ++ ['\x7d'] ++ rest) =
      some (fieldsChars fields ++ '\x7d' :: rest) := by
    simp [after?_cons (by decide : isBlank '\x7b' = false)]
  have hbracket : after? '[' (['\x7b'] ++ fieldsChars fields ++ ['\x7d'] ++ rest) = none := by
    simp [after?_cons (by decide : isBlank '\x7b' = false)]
  rw [value, hopen, hbracket]
  rcases eq_or_ne fields [] with rfl | hne
  · rfl
  · have hread := fields_eq hne hreads (by omega : (fieldsChars fields).length < fuel) rest
    dsimp only
    rw [((starts_fieldsChars hne).append _).after?_eq_none.2, hread]
    rfl

/-- What has been written is read, whatever delimits it. -/
theorem reads (hv : v.Integral) : Reads v := by
  induction hv with
  | null => exact reads_scalar rfl (by decide) fun rest _ => scalar?_null rest
  | bool b =>
    cases b with
    | true => exact reads_scalar rfl (by decide) fun rest _ => scalar?_bool true rest
    | false => exact reads_scalar rfl (by decide) fun rest _ => scalar?_bool false rest
  | @number i hlow hhigh =>
    obtain ⟨c, cs, heq, hc⟩ := exists_toString i
    exact reads_scalar heq ⟨isBlank_of_starts hc, ne_of_starts hc (by decide),
      ne_of_starts hc (by decide)⟩ fun rest => scalar?_integer hlow hhigh
  | string s =>
    refine reads_scalar rfl (by decide) fun rest _ => ?_
    have hstring := string?_stringChars s rest
    rw [scalar?, chars, hstring]
    rfl
  | array hitems ih => exact reads_array hitems ih
  | record _ ih => exact reads_record ih

/-- What has been written in the compact form is standard JSON, which is read back as it was. -/
theorem tree?_compact (hv : v.Integral) : tree? v.compact = some v := by
  have hchars : v.compact.toList = v.chars := String.toList_ofList
  have hread := reads hv (v.chars.length + 1) [] delimited_nil (Nat.le_succ _)
  rw [List.append_nil] at hread
  rw [tree?, hchars, hread]
  rfl

/-- The same with the fields put in order. -/
theorem parse?_compact (hv : v.Integral) : parse? v.compact = some v.sorted := by
  rw [parse?, tree?_compact hv, Option.map_some]

end Autofix.Json.Standard
