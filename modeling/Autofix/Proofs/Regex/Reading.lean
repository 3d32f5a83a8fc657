import Autofix.Regex.Parser
import Mathlib.Data.List.Basic

/-!
# Reading patterns step by step

What one step of `branches` does at each of the notations that generated patterns are made of: it
adds a tree to the ones read so far and goes on behind the notation. The texts that follow are left
open, so that the steps can be put together for patterns of any length.
-/

namespace Autofix.Regex

variable {fuel groups groups' : ℕ} {names names' : List (String × ℕ)} {done items : List Tree}
  {c : Char} {tail rest : List Char} {t inner : Tree}

/-- A reader outside verbose mode. -/
def reader (rest : List Char) (groups : ℕ) (names : List (String × ℕ)) : Reader :=
  ⟨rest, false, groups, names⟩

/-! ### Running steps -/

namespace Parse

variable {α β : Type} {s : Reader}

@[simp] theorem bind_apply (x : Parse α) (f : α → Parse β) :
    (x >>= f) s = (x s).bind fun r => f r.1 r.2 := rfl

@[simp] theorem pure_apply (a : α) : (pure a : Parse α) s = .ok (a, s) := rfl

@[simp] theorem get_apply : (get : Parse Reader) s = .ok (s, s) := rfl

@[simp] theorem map_apply (f : α → β) (x : Parse α) :
    (f <$> x) s = (x s).map fun r => (f r.1, r.2) := by
  change (x s).bind (fun r => .ok (f r.1, r.2)) = _
  cases x s <;> rfl

@[simp] theorem ok_map (r : α × Reader) (f : α × Reader → β × Reader) :
    (Except.ok r : Except Flaw (α × Reader)).map f = .ok (f r) := rfl

@[simp] theorem ok_bind (r : α × Reader) (f : α × Reader → Except Flaw (β × Reader)) :
    (Except.ok r : Except Flaw (α × Reader)).bind f = f r := rfl

@[simp] theorem peek_reader : peek (reader rest groups names) =
    .ok (rest.head?, reader rest groups names) := rfl

@[simp] theorem peekSecond_reader : peekSecond (reader rest groups names) =
    .ok ((rest.drop 1).head?, reader rest groups names) := rfl

@[simp] theorem peekPastBlanks_reader : peekPastBlanks (reader rest groups names) =
    .ok ((rest.drop 1).head?, reader rest groups names) := rfl

@[simp] theorem advance_reader : advance (reader rest groups names) =
    .ok ((), reader (rest.drop 1) groups names) := rfl

@[simp] theorem skipBlanks_reader :
    skipBlanks (reader rest groups names) = .ok ((), reader rest groups names) := rfl

@[simp] theorem setVerbose_reader :
    setVerbose false (reader rest groups names) = .ok ((), reader rest groups names) := rfl

end Parse

@[simp] theorem rest_reader : (reader rest groups names).rest = rest := rfl

@[simp] theorem verbose_reader : (reader rest groups names).verbose = false := rfl

/-! ### Single characters -/

/-- A character that starts no notation of groups, classes and repetitions is read by itself. -/
theorem branches_primitive {p : Primitive} (hc : c ∉ [')', '(', '|', '[', '?', '*', '+', '\x7b'])
    (hp : primitive c (reader (c :: tail) groups names) = .ok (p, reader rest groups' names')) :
    branches (fuel + 1) done items (reader (c :: tail) groups names) =
      branches fuel done (p.tree :: items) (reader rest groups' names') := by
  simp only [List.mem_cons, List.not_mem_nil, or_false, not_or] at hc
  obtain ⟨h₁, h₂, h₃, h₄, h₅, h₆, h₇, h₈⟩ := hc
  rw [branches]
  simp [hp]

/-- A character without a meaning of its own stands for itself. -/
theorem branches_literal (hc : isMeta c = false) :
    branches (fuel + 1) done items (reader (c :: tail) groups names) =
      branches fuel done (.literal { char := c } :: items) (reader tail groups names) := by
  have hmeta : ∀ d, isMeta d → c ≠ d := fun d hd heq => by simp [← heq, hc] at hd
  refine branches_primitive (p := .literal { char := c }) ?_ ?_
  · simp only [List.mem_cons, List.not_mem_nil, or_false, not_or]
    refine ⟨?_, ?_, ?_, ?_, ?_, ?_, ?_, ?_⟩ <;> exact hmeta _ (by decide)
  · have h₁ := hmeta '\\' (by decide)
    have h₂ := hmeta '.' (by decide)
    have h₃ := hmeta '^' (by decide)
    have h₄ := hmeta '$' (by decide)
    simp [primitive]

theorem escape_meta (hc : isMeta c) : escape (reader ('\\' :: c :: tail) groups names) =
    .ok (.literal { char := c }, reader tail groups names) := by
  have hletters : ∀ d, isMeta d → d.isDigit = false ∧ d ∉ ['x', 'u', 'U', 'p', 'P'] := by
    have hall : ∀ d ∈ "\\.+*?()|[]\x7b\x7d^$#&-~".toList,
        d.isDigit = false ∧ d ∉ ['x', 'u', 'U', 'p', 'P'] := by simp
    exact fun d hd => hall d (List.contains_iff_mem.1 hd)
  obtain ⟨hdigit, hletter⟩ := hletters c hc
  simp only [List.mem_cons, List.not_mem_nil, or_false, not_or] at hletter
  simp [escape, hdigit, hletter, isEscapable, hc]

/-- A character with a meaning of its own stands for itself after a backslash. -/
theorem branches_escaped (hc : isMeta c) :
    branches (fuel + 1) done items (reader ('\\' :: c :: tail) groups names) =
      branches fuel done (.literal { char := c } :: items) (reader tail groups names) :=
  branches_primitive (p := .literal { char := c }) (by decide) (escape_meta hc)

theorem branches_dot : branches (fuel + 1) done items (reader ('.' :: tail) groups names) =
    branches fuel done (.dot :: items) (reader tail groups names) :=
  branches_primitive (p := .dot) (by decide) rfl

theorem branches_lineStart : branches (fuel + 1) done items (reader ('^' :: tail) groups names) =
    branches fuel done (.anchor .lineStart :: items) (reader tail groups names) :=
  branches_primitive (p := .anchor .lineStart) (by decide) rfl

theorem branches_lineEnd : branches (fuel + 1) done items (reader ('$' :: tail) groups names) =
    branches fuel done (.anchor .lineEnd :: items) (reader tail groups names) :=
  branches_primitive (p := .anchor .lineEnd) (by decide) rfl

/-! ### Branches -/

theorem branches_bar : branches (fuel + 1) done items (reader ('|' :: tail) groups names) =
    branches fuel (Tree.ofItems items.reverse :: done) [] (reader tail groups names) := by
  rw [branches]
  simp

theorem branches_close : branches (fuel + 1) done items (reader (')' :: tail) groups names) =
    .ok (Tree.ofBranches ((Tree.ofItems items.reverse :: done).reverse),
      reader (')' :: tail) groups names) := by
  rw [branches]
  simp

theorem branches_nil : branches (fuel + 1) done items (reader [] groups names) =
    .ok (Tree.ofBranches ((Tree.ofItems items.reverse :: done).reverse),
      reader [] groups names) := by
  rw [branches]
  simp

/-! ### Groups -/

theorem opening_group : opening (reader ('(' :: '?' :: ':' :: tail) groups names) =
    .ok (.group [], reader tail groups names) := rfl

theorem opening_capture (hc : c ≠ '?') : opening (reader ('(' :: c :: tail) groups names) =
    .ok (.capture (groups + 1), reader (c :: tail) (groups + 1) names) := by
  -- None of the texts that may follow the parenthesis does.
  have htake : ∀ text : String, text.toList.head? = some '?' →
      Parse.take? text (reader (c :: tail) groups names) =
        .ok (false, reader (c :: tail) groups names) := by
    intro text htext
    obtain ⟨cs, hcs⟩ := List.head?_eq_some_iff.1 htext
    simp [Parse.take?, hcs, Ne.symm hc]
  simp only [opening, Parse.bind_apply, Parse.advance_reader, Parse.skipBlanks_reader,
    Parse.ok_bind, List.drop_one, List.tail_cons, htake "?=" rfl, htake "?!" rfl, htake "?<=" rfl,
    htake "?<!" rfl, htake "?P<" rfl, htake "?<" rfl, htake "?" rfl, Bool.or_self,
    Bool.false_eq_true, if_false]
  rfl

/-- A group that is read up to its closing parenthesis. -/
theorem branches_group
    (hinner : branches fuel [] [] (reader tail groups names) =
      .ok (inner, reader (')' :: rest) groups' names')) :
    branches (fuel + 1) done items (reader ('(' :: '?' :: ':' :: tail) groups names) =
      branches fuel done (.group [] inner :: items) (reader rest groups' names') := by
  rw [branches]
  simp [opening_group, hinner, verboseSetting?]

theorem branches_capture (hc : c ≠ '?')
    (hinner : branches fuel [] [] (reader (c :: tail) (groups + 1) names) =
      .ok (inner, reader (')' :: rest) groups' names')) :
    branches (fuel + 1) done items (reader ('(' :: c :: tail) groups names) =
      branches fuel done (.capture (groups + 1) inner :: items) (reader rest groups' names') := by
  rw [branches]
  simp [opening_capture hc, hinner]

/-! ### Repetitions -/

/-- Whether a tree can be repeated. -/
def Tree.isRepeatable : Tree → Bool
  | .empty | .flags _ => false
  | _ => true

theorem repeatable_cons (ht : t.isRepeatable) {s : Reader} :
    repeatable (t :: items) s = .ok ((t, items), s) := by
  cases t <;> first | rfl | cases ht

theorem lazyMark_reader (htail : tail.head? ≠ some '?') :
    lazyMark (reader tail groups names) = .ok (false, reader tail groups names) := by
  simp [lazyMark, htail]

theorem suffix_reader {lazy_ : Bool} (ht : t.isRepeatable) (lo : ℕ) (hi : Option ℕ)
    (hmark : lazyMark (reader tail groups names) = .ok (lazy_, reader rest groups names)) :
    branches.suffix fuel done (t :: items) lo hi (reader (c :: tail) groups names) =
      branches fuel done (.repetition lo hi (!lazy_) t :: items) (reader rest groups names) := by
  rw [branches.suffix]
  simp [repeatable_cons ht, hmark]

/-- Any number of times, as many as can be. -/
theorem branches_star (ht : t.isRepeatable) (htail : tail.head? ≠ some '?') :
    branches (fuel + 1) done (t :: items) (reader ('*' :: tail) groups names) =
      branches fuel done (.repetition 0 none true t :: items) (reader tail groups names) := by
  rw [branches]
  simp [suffix_reader ht 0 none (lazyMark_reader htail)]

/-- Once if it can be. -/
theorem branches_optional (ht : t.isRepeatable) (htail : tail.head? ≠ some '?') :
    branches (fuel + 1) done (t :: items) (reader ('?' :: tail) groups names) =
      branches fuel done (.repetition 0 (some 1) true t :: items) (reader tail groups names) := by
  rw [branches]
  simp [suffix_reader ht 0 (some 1) (lazyMark_reader htail)]

/-- At least once, as few times as can be. -/
theorem branches_plus_lazy (ht : t.isRepeatable) :
    branches (fuel + 1) done (t :: items) (reader ('+' :: '?' :: tail) groups names) =
      branches fuel done (.repetition 1 none false t :: items) (reader tail groups names) := by
  have hmark : lazyMark (reader ('?' :: tail) groups names) =
      .ok (true, reader tail groups names) := by simp [lazyMark]
  rw [branches]
  simp [suffix_reader ht 1 none hmark]

/-! ### Classes -/

theorem branches_class {negated : Bool} {set : ClassTree} (tail : List Char)
    (hclass : classBrackets (tail.length + 2) (reader ('[' :: tail) groups names) =
      .ok ((negated, set), reader rest groups names)) :
    branches (fuel + 1) done items (reader ('[' :: tail) groups names) =
      branches fuel done (.set negated set :: items) (reader rest groups names) := by
  rw [branches]
  simp [hclass]

theorem classItem_literal {d : Char} (hc : c ≠ '\\') (hd : d ≠ '-') :
    classItem c (reader (c :: d :: tail) groups names) =
      .ok (.literal { char := c }, reader (d :: tail) groups names) := by
  simp [classItem, classPrimitive, hc, hd, Primitive.classTree]

theorem classItem_escaped {d : Char} (hc : isMeta c) (hd : d ≠ '-') :
    classItem '\\' (reader ('\\' :: c :: d :: tail) groups names) =
      .ok (.literal { char := c }, reader (d :: tail) groups names) := by
  simp [classItem, classPrimitive, escape_meta hc, hd, Primitive.classTree]

/-- A member of a class is read by itself unless it starts a nested class or an operation. -/
theorem classItems_item {items : List ClassTree} {set : ClassTree}
    (hc : c ∉ ['[', ']', '&', '-', '~'])
    (hitem : classItem c (reader (c :: tail) groups names) =
      .ok (set, reader rest groups names)) :
    classItems (fuel + 1) none items (reader (c :: tail) groups names) =
      classItems fuel none (set :: items) (reader rest groups names) := by
  simp only [List.mem_cons, List.not_mem_nil, or_false, not_or] at hc
  obtain ⟨h₁, h₂, h₃, h₄, h₅⟩ := hc
  rw [classItems]
  simp [h₁, h₂, h₃, h₄, h₅, hitem]

theorem classItems_close {items : List ClassTree} :
    classItems (fuel + 1) none items (reader (']' :: tail) groups names) =
      .ok (ClassTree.ofItems items.reverse, reader tail groups names) := by
  rw [classItems]
  simp [closeOp]

theorem classBrackets_plain (hc : c ∉ ['^', '-', ']']) :
    classBrackets (fuel + 1) (reader ('[' :: c :: tail) groups names) =
      (classItems fuel none [] (reader (c :: tail) groups names)).map fun r =>
        ((false, r.1), r.2) := by
  simp only [List.mem_cons, List.not_mem_nil, or_false, not_or] at hc
  rw [classBrackets]
  simp [Parse.next, hc, leadingDashes]

theorem classBrackets_negated (hc : c ∉ ['-', ']']) :
    classBrackets (fuel + 1) (reader ('[' :: '^' :: c :: tail) groups names) =
      (classItems fuel none [] (reader (c :: tail) groups names)).map fun r =>
        ((true, r.1), r.2) := by
  simp only [List.mem_cons, List.not_mem_nil, or_false, not_or] at hc
  rw [classBrackets]
  simp [Parse.next, hc, leadingDashes]

/-! ### Whole patterns -/

theorem ofText?_eq_ok {pattern : String} (hdepth : t.depth ≤ nestingLimit)
    (hread : branches (2 * pattern.toList.length + 2) [] [] (reader pattern.toList 0 []) =
      .ok (t, reader [] groups names)) :
    Parsed.ofText? pattern = .ok ⟨t, groups, names⟩ := by
  have hrun : (branches (2 * pattern.toList.length + 2) [] []).run { rest := pattern.toList } =
      .ok (t, reader [] groups names) := hread
  simp only [Parsed.ofText?, hrun, bind, Except.bind, rest_reader, ne_eq, not_true_eq_false,
    if_false, Nat.not_lt.2 hdepth]
  rfl

end Autofix.Regex
