import Autofix.Proofs.Json.Ordered
import Autofix.Proofs.Json.Written

/-!
# Compact texts in the relaxed reader

What has been written as compact JSON is read back as it was, with the fields of each object in the
order of their names, if its numbers are integers of 64 bits (`read?_compact`): the text is cut into
the tokens that it is written with (`lexes_chars`), and these are put together again (`reads`).
-/

namespace Autofix.Json

variable {rest : List Char} {v : Json}

/-! ### Tokens -/

mutual

/-- The tokens that a compact text is written with. -/
def tokenList : Json → List Token
  | .null => [.null]
  | .bool b => [.bool b]
  | .number n => [.number n.text]
  | .string s => [.string s]
  | .array items => .openBracket :: (itemTokens items ++ [.closeBracket])
  | .record fields => .openBrace :: (fieldTokens fields ++ [.closeBrace])

def itemTokens : List Json → List Token
  | [] => []
  | [item] => item.tokenList
  | item :: rest => item.tokenList ++ .comma :: itemTokens rest

def fieldTokens : List (String × Json) → List Token
  | [] => []
  | [(name, value)] => .string name :: .colon :: value.tokenList
  | (name, value) :: rest => .string name :: .colon :: (value.tokenList ++ .comma :: fieldTokens rest)

end

/-- A string is read up to its closing quote. -/
theorem stringRest_escaped (cs seen : List Char) {fuel : Nat} (start place : Nat)
    (h : (cs.flatMap escaped ++ '"' :: rest).length < fuel) :
    stringRest '"' start fuel place seen (cs.flatMap escaped ++ '"' :: rest) =
      .ok (String.ofList (seen.reverse ++ cs), rest) := by
  induction cs generalizing fuel place seen with
  | nil =>
    obtain ⟨fuel, rfl⟩ := Nat.exists_eq_add_one.2 (Nat.zero_lt_of_lt h)
    simp [stringRest]
  | cons c cs ih =>
    obtain ⟨fuel, rfl⟩ := Nat.exists_eq_add_one.2 (Nat.zero_lt_of_lt h)
    rw [List.flatMap_cons, List.append_assoc] at h ⊢
    rcases escaped_cases c with ⟨heq, hquote, hback, -⟩ | ⟨body, hbody, heq, hescape⟩
    · rw [heq] at h ⊢
      rw [List.singleton_append] at h ⊢
      rw [stringRest, if_neg hquote, if_neg hback, ih _ _ (Nat.lt_of_succ_lt_succ h)]
      simp
    · rw [heq, List.cons_append] at h ⊢
      have hshort : (cs.flatMap escaped ++ '"' :: rest).length < fuel := by
        rw [List.length_cons, List.length_append] at h
        omega
      rw [stringRest, if_neg (by decide), if_pos rfl, if_neg (by simp [hbody]), hescape]
      dsimp only
      rw [ih _ _ hshort]
      simp

theorem token_string (s : String) (place : Nat) (rest : List Char) :
    token place (stringChars s ++ rest) = .ok (.string s, rest) := by
  have hwritten : stringChars s ++ rest = '"' :: (s.toList.flatMap escaped ++ '"' :: rest) := by
    simp [stringChars]
  rw [hwritten, token]
  simp only [Char.reduceEq, if_false, true_or, if_true]
  rw [stringRest_escaped _ _ _ _ (Nat.lt_succ_self _)]
  simp [Except.map]

theorem keyword?_delimited (word : String) (hrest : Delimited rest) :
    keyword? word (word.toList ++ rest) = some rest := by
  have hpre : word.toList.isPrefixOf (word.toList ++ rest) :=
    List.isPrefixOf_iff_prefix.2 (List.prefix_append _ _)
  rw [keyword?, if_pos hpre, ← String.length_toList, List.drop_left]
  cases rest with
  | nil => rfl
  | cons c rest =>
    have hc : Unicode.isAlphanumeric c = false := by
      rcases hrest c rfl with rfl | rfl | rfl <;> decide
    simp [hc]

theorem token_bool (b : Bool) (hrest : Delimited rest) (place : Nat) :
    token place ((Json.bool b).chars ++ rest) = .ok (.bool b, rest) := by
  cases b with
  | true =>
    have hword : keyword? "true" ('t' :: ('r' :: 'u' :: 'e' :: rest)) = some rest :=
      keyword?_delimited "true" hrest
    have hchars : (Json.bool true).chars ++ rest = 't' :: ('r' :: 'u' :: 'e' :: rest) := by
      simp [chars]
    rw [hchars, token, hword]
    rfl
  | false =>
    have hword : keyword? "false" ('f' :: ('a' :: 'l' :: 's' :: 'e' :: rest)) = some rest :=
      keyword?_delimited "false" hrest
    have hchars : (Json.bool false).chars ++ rest = 'f' :: ('a' :: 'l' :: 's' :: 'e' :: rest) := by
      simp [chars]
    rw [hchars, token, hword]
    rfl

theorem token_null (hrest : Delimited rest) (place : Nat) :
    token place (Json.null.chars ++ rest) = .ok (.null, rest) := by
  have hword : keyword? "null" ('n' :: ('u' :: 'l' :: 'l' :: rest)) = some rest :=
    keyword?_delimited "null" hrest
  have hchars : Json.null.chars ++ rest = 'n' :: ('u' :: 'l' :: 'l' :: rest) := by
    simp [chars]
  rw [hchars, token, hword]
  rfl

theorem token_integer (i : Int) (hrest : Delimited rest) (place : Nat) :
    token place ((toString i).toList ++ rest) = .ok (.number (toString i), rest) := by
  have htext := toList_toString i
  split_ifs at htext with hi
  · obtain ⟨d, ds, heq, hdigits, -⟩ := exists_toDigits i.toNat
    have hd := hdigits d List.mem_cons_self
    have hne : ∀ c, c.isDigit = false → d ≠ c := by
      rintro c hc rfl
      exact Bool.false_ne_true (hc.symm.trans hd)
    have hunsigned := unsigned_toDigits i.toNat hrest place
    rw [heq, List.cons_append] at hunsigned
    have hnumber : String.ofList (d :: ds) = toString i := by
      rw [← heq, ← htext, String.ofList_toList]
    rw [htext, heq, List.cons_append, token]
    -- A digit is none of the characters with which other tokens start.
    simp only [hne _ (by decide : '\x7b'.isDigit = false), hne _ (by decide : '\x7d'.isDigit = false),
      hne _ (by decide : '['.isDigit = false), hne _ (by decide : ']'.isDigit = false),
      hne _ (by decide : ','.isDigit = false), hne _ (by decide : ':'.isDigit = false),
      hne _ (by decide : '"'.isDigit = false), hne _ (by decide : '\''.isDigit = false),
      hne _ (by decide : '/'.isDigit = false), hne _ (by decide : '-'.isDigit = false),
      hne _ (by decide : '+'.isDigit = false), or_self, if_false, hd, if_true, hunsigned]
    rw [← hnumber]
    rfl
  · have hunsigned := unsigned_toDigits (-i).toNat hrest (place + 1)
    have hnumber : String.ofList ('-' :: Nat.toDigits 10 (-i).toNat) = toString i := by
      rw [← htext, String.ofList_toList]
    rw [htext, List.cons_append, token]
    simp only [Char.reduceEq, or_self, or_false, if_false, if_true, hunsigned]
    rw [← hnumber]
    rfl

/-! ### Cutting a compact text into tokens -/

/-- A text is cut into tokens, and then goes on with the rest. -/
def Lexes (cs : List Char) (ts : List Token) (rest : List Char) : Prop :=
  ∀ fuel place, cs.length < fuel → ∃ placed fuel' place', placed.map (·.2) = ts ∧
    rest.length < fuel' ∧
    (tokensFrom fuel place cs).list = placed ++ (tokensFrom fuel' place' rest).list ∧
    (tokensFrom fuel place cs).tail = (tokensFrom fuel' place' rest).tail

theorem Lexes.append {cs mid : List Char} {ts ts' : List Token} (h : Lexes cs ts mid)
    (h' : Lexes mid ts' rest) : Lexes cs (ts ++ ts') rest := by
  intro fuel place hfuel
  obtain ⟨placed, fuel₁, place₁, rfl, hfuel₁, hlist, htail⟩ := h fuel place hfuel
  obtain ⟨placed', fuel₂, place₂, rfl, hfuel₂, hlist', htail'⟩ := h' fuel₁ place₁ hfuel₁
  refine ⟨placed ++ placed', fuel₂, place₂, List.map_append, hfuel₂, ?_, htail.trans htail'⟩
  rw [hlist, hlist', List.append_assoc]

theorem Lexes.refl (rest : List Char) : Lexes rest [] rest := fun fuel place hfuel =>
  ⟨[], fuel, place, rfl, hfuel, rfl, rfl⟩

/-- A token at the start of a text is cut off. -/
theorem Lexes.single {c : Char} {cs : List Char} {t : Token}
    (hblank : Unicode.isWhitespace c = false) (hslash : c ≠ '/')
    (htoken : ∀ place, token place (c :: cs) = .ok (t, rest)) (hlength : rest.length ≤ cs.length) :
    Lexes (c :: cs) [t] rest := by
  intro fuel place hfuel
  obtain ⟨fuel, rfl⟩ := Nat.exists_eq_add_one.2 (Nat.zero_lt_of_lt hfuel)
  have hskip : skipBlanks ((c :: cs).length + 1) place (c :: cs) = .ok (place, c :: cs) := by
    rw [skipBlanks, hblank, if_neg Bool.false_ne_true]
    · exact fun _ heq => absurd heq hslash
    · exact fun _ heq => absurd heq hslash
  refine ⟨[(place, t)], fuel, place + (cs.length + 1 - rest.length), rfl, ?_, ?_, ?_⟩
  · rw [List.length_cons] at hfuel
    omega
  · simp only [tokensFrom, hskip, htoken, List.singleton_append]
  · simp only [tokensFrom, hskip, htoken]

/-- Texts of which the tokens can be cut off, as long as something delimits them. -/
def LexesAs (cs : List Char) (ts : List Token) : Prop :=
  ∀ rest, Delimited rest → Lexes (cs ++ rest) ts rest

theorem lexes_punctuation {c : Char} {t : Token}
    (h : (c, t) ∈ [('\x7b', Token.openBrace), ('\x7d', .closeBrace), ('[', .openBracket),
      (']', .closeBracket), (',', .comma), (':', .colon)]) (rest : List Char) :
    Lexes (c :: rest) [t] rest := by
  have hshape : Unicode.isWhitespace c = false ∧ c ≠ '/' := by
    have hall : ∀ a ∈ [('\x7b', Token.openBrace), ('\x7d', .closeBrace), ('[', .openBracket),
        (']', .closeBracket), (',', .comma), (':', .colon)],
        Unicode.isWhitespace a.1 = false ∧ a.1 ≠ '/' := by decide
    exact hall _ h
  refine .single hshape.1 hshape.2 (fun place => ?_) (Nat.le_refl _)
  simp only [List.mem_cons, List.not_mem_nil, Prod.mk.injEq, or_false] at h
  rcases h with ⟨rfl, rfl⟩ | ⟨rfl, rfl⟩ | ⟨rfl, rfl⟩ | ⟨rfl, rfl⟩ | ⟨rfl, rfl⟩ | ⟨rfl, rfl⟩ <;> rfl

theorem lexes_string (s : String) (rest : List Char) :
    Lexes (stringChars s ++ rest) [.string s] rest := by
  have htoken := fun place => token_string s place rest
  have hwritten : stringChars s ++ rest = '"' :: (s.toList.flatMap escaped ++ ['"'] ++ rest) := by
    simp [stringChars]
  rw [hwritten] at htoken ⊢
  refine .single (by decide) (by decide) htoken ?_
  rw [List.length_append]
  exact Nat.le_add_left _ _

theorem isWhitespace_of_isDigit {d : Char} (hd : d.isDigit) : Unicode.isWhitespace d = false := by
  obtain ⟨hlow, hhigh⟩ := Char.isDigit_iff_toNat.1 hd
  have hlow : 48 ≤ d.toNat := hlow
  have hhigh : d.toNat ≤ 57 := hhigh
  have hspace : d ≠ ' ' := by
    rintro rfl
    exact absurd hd (by decide)
  rw [Unicode.isWhitespace, if_pos (by omega), decide_eq_false hspace, Bool.or_false,
    decide_eq_false (p := d.toNat ≤ 13) (by omega), Bool.and_false]

theorem LexesAs.of_token {word : List Char} {c : Char} {cs : List Char} {t : Token}
    (hword : word = c :: cs) (hblank : Unicode.isWhitespace c = false) (hslash : c ≠ '/')
    (htoken : ∀ rest, Delimited rest → ∀ place, token place (word ++ rest) = .ok (t, rest)) :
    LexesAs word [t] := by
  intro rest hrest
  have htoken := htoken rest hrest
  rw [hword, List.cons_append] at htoken ⊢
  exact .single hblank hslash htoken (by simp)

theorem lexes_integer (i : Int) : LexesAs (toString i).toList [.number (toString i)] := by
  obtain ⟨c, cs, heq, hdigit | rfl⟩ := exists_toString i
  · refine .of_token heq (isWhitespace_of_isDigit hdigit) ?_ fun _ => token_integer i
    rintro rfl
    exact absurd hdigit (by decide)
  · exact .of_token heq (by decide) (by decide) fun _ => token_integer i

/-- Items that are cut into their tokens make up a list that is. -/
theorem lexes_itemsChars {items : List Json} (h : ∀ v ∈ items, LexesAs v.chars v.tokenList) :
    LexesAs (itemsChars items) (itemTokens items) := by
  intro rest hrest
  induction items with
  | nil => exact .refl rest
  | cons v items ih =>
    obtain ⟨hv, hitems⟩ := List.forall_mem_cons.1 h
    cases items with
    | nil => exact hv rest hrest
    | cons next items =>
      have hcomma : Lexes (',' :: (itemsChars (next :: items) ++ rest)) [.comma] _ :=
        lexes_punctuation (by simp) _
      have hall := (hv _ (delimited_cons (.inl rfl) _)).append (hcomma.append (ih hitems))
      simpa [itemsChars, itemTokens] using hall

theorem lexes_fieldsChars {fields : List (String × Json)}
    (h : ∀ a ∈ fields, LexesAs a.2.chars a.2.tokenList) :
    LexesAs (fieldsChars fields) (fieldTokens fields) := by
  intro rest hrest
  induction fields with
  | nil => exact .refl rest
  | cons field fields ih =>
    obtain ⟨name, v⟩ := field
    obtain ⟨hv, hfields⟩ := List.forall_mem_cons.1 h
    have hfield : ∀ more, Lexes (v.chars ++ more) v.tokenList more →
        Lexes (stringChars name ++ ':' :: (v.chars ++ more))
          ([.string name] ++ ([.colon] ++ v.tokenList)) more := fun more hmore =>
      (lexes_string name _).append ((lexes_punctuation (by simp) _).append hmore)
    cases fields with
    | nil => simpa [fieldsChars, fieldTokens] using hfield rest (hv rest hrest)
    | cons next fields =>
      have hcomma : Lexes (',' :: (fieldsChars (next :: fields) ++ rest)) [.comma] _ :=
        lexes_punctuation (by simp) _
      have hall := (hfield _ (hv _ (delimited_cons (.inl rfl) _))).append (hcomma.append (ih hfields))
      simpa [fieldsChars, fieldTokens] using hall

/-- A compact text is cut into the tokens that it is written with. -/
theorem lexes_chars (hv : v.Integral) : LexesAs v.chars v.tokenList := by
  induction hv with
  | null => exact .of_token rfl (by decide) (by decide) fun _ => token_null
  | bool b =>
    cases b with
    | true => exact .of_token rfl (by decide) (by decide) fun _ => token_bool true
    | false => exact .of_token rfl (by decide) (by decide) fun _ => token_bool false
  | number _ _ => exact lexes_integer _
  | string s => exact fun rest _ => lexes_string s rest
  | @array items _ ih =>
    intro rest hrest
    have hitems := lexes_itemsChars ih _ (delimited_cons (.inr (.inl rfl)) rest)
    have hopen : Lexes ('[' :: (itemsChars items ++ ']' :: rest)) [.openBracket] _ :=
      lexes_punctuation (by simp) _
    have hclose : Lexes (']' :: rest) [.closeBracket] rest := lexes_punctuation (by simp) rest
    simpa [chars, tokenList] using hopen.append (hitems.append hclose)
  | @record fields _ ih =>
    intro rest hrest
    have hfields := lexes_fieldsChars ih _ (delimited_cons (.inr (.inr rfl)) rest)
    have hopen : Lexes ('\x7b' :: (fieldsChars fields ++ '\x7d' :: rest)) [.openBrace] _ :=
      lexes_punctuation (by simp) _
    have hclose : Lexes ('\x7d' :: rest) [.closeBrace] rest := lexes_punctuation (by simp) rest
    simpa [chars, tokenList] using hopen.append (hfields.append hclose)

/-- The tokens of a compact text, with their places. -/
theorem exists_tokens_chars (hv : v.Integral) : ∃ placed place,
    tokens v.chars = ⟨placed, .done place⟩ ∧ placed.map (·.2) = v.tokenList := by
  have hlexes := lexes_chars hv [] delimited_nil
  rw [List.append_nil] at hlexes
  obtain ⟨placed, fuel, place, hplaced, hfuel, hlist, htail⟩ :=
    hlexes (v.chars.length + 1) 0 (Nat.lt_succ_self _)
  obtain ⟨fuel, rfl⟩ := Nat.exists_eq_add_one.2 (Nat.zero_lt_of_lt hfuel)
  have hend : tokensFrom (fuel + 1) place [] = ⟨[], .done place⟩ := rfl
  rw [hend, List.append_nil] at hlist
  rw [hend] at htail
  have heta : tokens v.chars = ⟨(tokens v.chars).list, (tokens v.chars).tail⟩ := rfl
  exact ⟨placed, place, by rw [heta, tokens, hlist, htail], hplaced⟩

/-! ### Putting the tokens together -/

/-- From the tokens of a value, wherever they stand, a reader with enough fuel makes the value with
    its fields in order. -/
def Reads (v : Json) : Prop :=
  ∀ (tail : Tail) (missing : Nat → Bad) (fuel : Nat) (ts : List (Nat × Token)) (more : List Token),
    ts.map (·.2) = v.tokenList ++ more → v.tokenList.length ≤ fuel →
    ∃ ts', ts'.map (·.2) = more ∧ value tail missing fuel ts = .ok (v.sorted, ts')

/-- A value starts with a token, which does not close an array. -/
theorem exists_tokenList (v : Json) : ∃ t ts, v.tokenList = t :: ts ∧ t ≠ .closeBracket := by
  cases v <;> exact ⟨_, _, rfl, by simp⟩

theorem exists_succ_of_tokenList_le {fuel : Nat} (h : v.tokenList.length ≤ fuel) :
    ∃ n, fuel = n + 1 := by
  obtain ⟨t, ts, heq, -⟩ := exists_tokenList v
  rw [heq, List.length_cons] at h
  exact ⟨fuel - 1, by omega⟩

variable {fuel : Nat} {ts : List (Nat × Token)} {more left : List Token}

/-- What stands behind an item or a field, and what is left once a comma has been passed over. -/
def Separates (more left : List Token) : Prop :=
  more = .comma :: left ∨ more = left ∧ ∃ t rest, left = t :: rest ∧ t ≠ .comma

/-- An item is read, and then the ones behind it. -/
theorem items_succ (tail : Tail) (start : Nat) (hv : Reads v)
    (hts : ts.map (·.2) = v.tokenList ++ more) (hmore : Separates more left)
    (hfuel : v.tokenList.length ≤ fuel) : ∃ ts', ts'.map (·.2) = left ∧
      Json.items tail start (fuel + 1) ts =
        (Json.items tail start fuel ts').map fun r => (v.sorted :: r.1, r.2) := by
  obtain ⟨ts', hts', hvalue⟩ := hv tail (fun _ => (start, .unterminatedArray)) fuel ts more hts hfuel
  obtain ⟨t, rest, heq, hne⟩ := exists_tokenList v
  rw [heq, List.cons_append] at hts
  obtain ⟨⟨place, t'⟩, ts, rfl, ht, -⟩ := List.map_eq_cons_iff.1 hts
  obtain rfl : t' = t := ht
  rcases hmore with rfl | ⟨rfl, t, rest, rfl, hcomma⟩
  · obtain ⟨⟨place, t⟩, ts', rfl, rfl, hleft⟩ := List.map_eq_cons_iff.1 hts'
    refine ⟨ts', hleft, ?_⟩
    rw [Json.items, hvalue]
    · simp only [bind, Except.bind]
      cases Json.items tail start fuel ts' <;> rfl
    · exact hne
  · refine ⟨ts', hts', ?_⟩
    obtain ⟨⟨place, t⟩, ts', rfl, rfl, -⟩ := List.map_eq_cons_iff.1 hts'
    rw [Json.items, hvalue]
    · simp only [bind, Except.bind]
      cases hitems : Json.items tail start fuel ((place, t) :: ts') <;>
        simp [hcomma, hitems, Except.map, pure, Except.pure]
    · exact hne

theorem items_eq (tail : Tail) (start : Nat) {items : List Json} (h : ∀ v ∈ items, Reads v)
    (hts : ts.map (·.2) = itemTokens items ++ .closeBracket :: more)
    (hfuel : (itemTokens items).length < fuel) :
    ∃ ts', ts'.map (·.2) = more ∧ Json.items tail start fuel ts = .ok (sortedItems items, ts') := by
  induction items generalizing fuel ts with
  | nil =>
    obtain ⟨fuel, rfl⟩ := Nat.exists_eq_add_one.2 (Nat.zero_lt_of_lt hfuel)
    obtain ⟨⟨place, t⟩, ts', rfl, rfl, hmore⟩ := List.map_eq_cons_iff.1 hts
    exact ⟨ts', hmore, rfl⟩
  | cons v items ih =>
    obtain ⟨fuel, rfl⟩ := Nat.exists_eq_add_one.2 (Nat.zero_lt_of_lt hfuel)
    obtain ⟨hv, hitems⟩ := List.forall_mem_cons.1 h
    obtain ⟨t, rest, hfirst, -⟩ := exists_tokenList v
    -- Behind the item there is a comma, or else the bracket.
    obtain ⟨behind, htokens, hsep, hlength⟩ : ∃ behind,
        itemTokens (v :: items) ++ .closeBracket :: more = v.tokenList ++ behind ∧
        Separates behind (itemTokens items ++ .closeBracket :: more) ∧
        v.tokenList.length + (itemTokens items).length ≤ (itemTokens (v :: items)).length := by
      cases items with
      | nil => exact ⟨_, rfl, .inr ⟨rfl, _, _, rfl, by simp⟩, Nat.le_refl _⟩
      | cons next items =>
        refine ⟨.comma :: (itemTokens (next :: items) ++ .closeBracket :: more), ?_, .inl rfl, ?_⟩
        · simp [itemTokens]
        · simp [itemTokens]
    have hpos : 0 < v.tokenList.length := by rw [hfirst]; exact Nat.zero_lt_succ _
    have hvfuel : v.tokenList.length ≤ fuel := by omega
    have hitemsfuel : (itemTokens items).length < fuel := by omega
    obtain ⟨ts₁, hts₁, hstep⟩ := items_succ tail start hv (hts.trans htokens) hsep hvfuel
    obtain ⟨ts', hmore, hrest⟩ := ih hitems hts₁ hitemsfuel
    refine ⟨ts', hmore, ?_⟩
    rw [hstep, hrest]
    rfl

/-- A field is read, and then the ones behind it. -/
theorem fields_succ (tail : Tail) (start : Nat) {name : String} (hv : Reads v)
    (hts : ts.map (·.2) = .string name :: .colon :: (v.tokenList ++ more))
    (hmore : Separates more left) (hfuel : v.tokenList.length ≤ fuel) :
    ∃ ts', ts'.map (·.2) = left ∧ Json.fields tail start (fuel + 1) ts =
      (Json.fields tail start fuel ts').map fun r => ((name, v.sorted) :: r.1, r.2) := by
  obtain ⟨⟨place, t⟩, ts₁, rfl, rfl, hts₁⟩ := List.map_eq_cons_iff.1 hts
  obtain ⟨⟨place', t⟩, ts₂, rfl, rfl, hts₂⟩ := List.map_eq_cons_iff.1 hts₁
  obtain ⟨ts', hts', hvalue⟩ :=
    hv tail (fun finish => (finish, .expectedFieldValue)) fuel ts₂ more hts₂ hfuel
  rcases hmore with rfl | ⟨rfl, t, rest, rfl, hcomma⟩
  · obtain ⟨⟨place, t⟩, ts', rfl, rfl, hleft⟩ := List.map_eq_cons_iff.1 hts'
    refine ⟨ts', hleft, ?_⟩
    simp only [Json.fields, hvalue, bind, Except.bind]
    cases Json.fields tail start fuel ts' <;> rfl
  · refine ⟨ts', hts', ?_⟩
    obtain ⟨⟨place, t⟩, ts', rfl, rfl, -⟩ := List.map_eq_cons_iff.1 hts'
    simp only [Json.fields, hvalue, bind, Except.bind]
    cases hfields : Json.fields tail start fuel ((place, t) :: ts') <;>
      simp [hcomma, hfields, Except.map, pure, Except.pure]

theorem fields_eq (tail : Tail) (start : Nat) {fields : List (String × Json)}
    (h : ∀ a ∈ fields, Reads a.2)
    (hts : ts.map (·.2) = fieldTokens fields ++ .closeBrace :: more)
    (hfuel : (fieldTokens fields).length < fuel) :
    ∃ ts', ts'.map (·.2) = more ∧ Json.fields tail start fuel ts = .ok (sortedFields fields, ts') := by
  induction fields generalizing fuel ts with
  | nil =>
    obtain ⟨fuel, rfl⟩ := Nat.exists_eq_add_one.2 (Nat.zero_lt_of_lt hfuel)
    obtain ⟨⟨place, t⟩, ts', rfl, rfl, hmore⟩ := List.map_eq_cons_iff.1 hts
    exact ⟨ts', hmore, rfl⟩
  | cons field fields ih =>
    obtain ⟨name, v⟩ := field
    obtain ⟨fuel, rfl⟩ := Nat.exists_eq_add_one.2 (Nat.zero_lt_of_lt hfuel)
    obtain ⟨hv, hfields⟩ := List.forall_mem_cons.1 h
    -- Behind the field there is a comma, or else the brace.
    obtain ⟨behind, htokens, hsep, hlength⟩ : ∃ behind,
        fieldTokens ((name, v) :: fields) ++ .closeBrace :: more =
          .string name :: .colon :: (v.tokenList ++ behind) ∧
        Separates behind (fieldTokens fields ++ .closeBrace :: more) ∧
        v.tokenList.length + (fieldTokens fields).length + 2 ≤
          (fieldTokens ((name, v) :: fields)).length := by
      cases fields with
      | nil => exact ⟨_, rfl, .inr ⟨rfl, _, _, rfl, by simp⟩, Nat.le_refl _⟩
      | cons next fields =>
        refine ⟨.comma :: (fieldTokens (next :: fields) ++ .closeBrace :: more), ?_, .inl rfl, ?_⟩
        · simp [fieldTokens]
        · simp [fieldTokens]
    have hvfuel : v.tokenList.length ≤ fuel := by omega
    have hfieldsfuel : (fieldTokens fields).length < fuel := by omega
    obtain ⟨ts₁, hts₁, hstep⟩ := fields_succ tail start hv (hts.trans htokens) hsep hvfuel
    obtain ⟨ts', hmore, hrest⟩ := ih hfields hts₁ hfieldsfuel
    refine ⟨ts', hmore, ?_⟩
    rw [hstep, hrest]
    rfl

/-- A value that is a single token is read from it. -/
theorem reads_single {t : Token} (htokens : v.tokenList = [t])
    (hvalue : ∀ tail missing fuel place rest,
      value tail missing (fuel + 1) ((place, t) :: rest) = .ok (v.sorted, rest)) : Reads v := by
  intro tail missing fuel ts more hts hfuel
  obtain ⟨fuel, rfl⟩ := exists_succ_of_tokenList_le hfuel
  rw [htokens] at hts
  obtain ⟨⟨place, t⟩, ts', rfl, rfl, hmore⟩ := List.map_eq_cons_iff.1 hts
  exact ⟨ts', hmore, hvalue tail missing fuel place ts'⟩

/-- The tokens of a value are put together as the value. -/
theorem reads (hv : v.Integral) : Reads v := by
  induction hv with
  | null | bool b | string s => exact reads_single rfl fun _ _ _ _ _ => rfl
  | number hlow hhigh =>
    refine reads_single rfl fun _ _ _ _ _ => ?_
    have htext := ofNumberText_toString hlow hhigh
    rw [value, Number.text, htext]
    rfl
  | @array items _ ih =>
    intro tail missing fuel ts more hts hfuel
    obtain ⟨fuel, rfl⟩ := exists_succ_of_tokenList_le hfuel
    rw [tokenList, List.cons_append, List.append_assoc] at hts
    obtain ⟨⟨place, t⟩, ts₁, rfl, rfl, hts₁⟩ := List.map_eq_cons_iff.1 hts
    have hitems : (itemTokens items).length < fuel := by
      simp only [tokenList, List.length_cons, List.length_append, List.length_nil] at hfuel
      omega
    obtain ⟨ts', hmore, heq⟩ := items_eq tail place ih hts₁ hitems
    refine ⟨ts', hmore, ?_⟩
    simp only [value, heq, bind, Except.bind]
    rfl
  | @record fields _ ih =>
    intro tail missing fuel ts more hts hfuel
    obtain ⟨fuel, rfl⟩ := exists_succ_of_tokenList_le hfuel
    rw [tokenList, List.cons_append, List.append_assoc] at hts
    obtain ⟨⟨place, t⟩, ts₁, rfl, rfl, hts₁⟩ := List.map_eq_cons_iff.1 hts
    have hfields : (fieldTokens fields).length < fuel := by
      simp only [tokenList, List.length_cons, List.length_append, List.length_nil] at hfuel
      omega
    obtain ⟨ts', hmore, heq⟩ := fields_eq tail place ih hts₁ hfields
    refine ⟨ts', hmore, ?_⟩
    simp only [value, heq, bind, Except.bind]
    rfl

/-- What has been written in the compact form is read back, with its fields in order. -/
theorem read?_compact (hv : v.Integral) : read? v.compact = .ok (some v.sorted) := by
  obtain ⟨placed, place, htokens, hplaced⟩ := exists_tokens_chars hv
  have hlength : v.tokenList.length = placed.length := by rw [← hplaced, List.length_map]
  obtain ⟨ts', hts', hvalue⟩ := reads hv (.done place) (fun finish => (finish, .unexpectedToken))
    (2 * placed.length + 2) placed [] (by rw [hplaced, List.append_nil]) (by omega)
  obtain rfl : ts' = [] := List.map_eq_nil_iff.1 hts'
  obtain ⟨t, ts, hfirst, -⟩ := exists_tokenList v
  obtain ⟨first, placed, rfl, -⟩ := List.map_eq_cons_iff.1 (hplaced.trans hfirst)
  have hread : readTokens (tokens v.chars) = .ok (some v.sorted) := by
    rw [htokens, readTokens]
    dsimp only
    rw [hvalue]
    rfl
  have hchars : v.compact.toList = v.chars := String.toList_ofList
  rw [read?, hchars]
  dsimp only
  rw [hread]

/-- Where the names in each object are in order, nothing is left to be sorted. -/
theorem Ordered.sorted_eq (h : v.Ordered) : v.sorted = v := by
  induction h with
  | null | bool | number | string => rfl
  | array _ ih =>
    rw [sorted, sortedItems_eq, (List.map_congr_left ih).trans (List.map_id'' (fun _ => rfl) _)]
  | @record fields hnames _ ih =>
    exact sorted_record_of_perm hnames ((Dictionary.mapValues_eq_self ih).symm ▸ .refl _)

end Autofix.Json
