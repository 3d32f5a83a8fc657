import Autofix.Proofs.Regex.Compile
import Autofix.Regex
import Mathlib.Data.Finset.Card
import Mathlib.Logic.Relation

/-!
# A search finds a match if there is one

The ways that a search follows side by side are, up to their order and what they keep, all the ways
there are: what waits for a character has been reached without reading one
(`exists_mem_waiting_iff`), since the instructions seen are closed under going on, and the fuel covers
two ways onward for each of them. Only the ways after one that accepts are given up, and then there
is a match already. So there is a match if an expression has one from some place of the text on
(`Regex.isMatch_iff`).
-/

namespace Autofix.Regex

namespace Program

variable {p : Program} {here : Here} {t : Thread} {threads stack found ways : List Thread}
  {fuel seen i j offset : ℕ} {before c : Option Char}

/-! ### Going on without reading -/

/-- Where a program goes on from an instruction without reading a character. -/
def onward (p : Program) (here : Here) (i : ℕ) : List ℕ :=
  match p.code[i]? with
  | some (.split first second) => [first, second]
  | some (.test l next) => if l.holds here.before here.after then [next] else []
  | some (.save _ next) => [next]
  | _ => []

/-- Whether an instruction reads or accepts. -/
def waits (p : Program) (i : ℕ) : Bool :=
  match p.code[i]? with
  | some (.read _ _) | some .accept => true
  | _ => false

/-- Going on any number of times without reading a character. -/
def Reaches (p : Program) (here : Here) : ℕ → ℕ → Prop :=
  Relation.ReflTransGen fun i j => j ∈ p.onward here i

theorem length_onward_le (p : Program) (here : Here) (i : ℕ) : (p.onward here i).length ≤ 2 := by
  unfold onward
  split
  · exact Nat.le_refl 2
  · split_ifs <;> simp
  · simp
  · simp

theorem onward_eq_nil (h : p.code.size ≤ i) : p.onward here i = [] := by
  unfold onward
  rw [Array.getElem?_eq_none h]

/-- The ways that come after one, without reading a character. -/
def goOn (p : Program) (here : Here) (t : Thread) : List Thread :=
  match p.code[t.place]? with
  | some (.split first second) => [⟨first, t.slots⟩, ⟨second, t.slots⟩]
  | some (.test l next) => if l.holds here.before here.after then [⟨next, t.slots⟩] else []
  | some (.save slot next) => [⟨next, t.slots.put slot here.offset⟩]
  | _ => []

theorem map_place_goOn (p : Program) (here : Here) (t : Thread) :
    (p.goOn here t).map (·.place) = p.onward here t.place := by
  unfold goOn onward
  cases hcode : p.code[t.place]? with
  | none => rfl
  | some instruction =>
    cases instruction with
    | test l next => by_cases hl : l.holds here.before here.after <;> simp [hl]
    | _ => rfl

/-- Following a way to an instruction not seen before goes on to all that comes after it. -/
theorem follow_cons (p : Program) (here : Here) (fuel : ℕ) (stack found : List Thread)
    (h : seen.testBit t.place = false) :
    follow p here (fuel + 1) (t :: stack) seen found =
      follow p here fuel (p.goOn here t ++ stack) (seen ||| 1 <<< t.place)
        (if p.waits t.place then t :: found else found) := by
  rw [follow, h]
  unfold goOn waits
  cases hcode : p.code[t.place]? with
  | none => rfl
  | some instruction =>
    cases instruction with
    | test l next => by_cases hl : l.holds here.before here.after <;> simp [hl]
    | _ => rfl

/-! ### All ways are followed -/

/-- How many instructions have not been seen. -/
def unseen (p : Program) (seen : ℕ) : ℕ :=
  ((Finset.range p.code.size).filter fun i => seen.testBit i = false).card

theorem testBit_see (seen i j : ℕ) :
    (seen ||| 1 <<< i).testBit j = (seen.testBit j || decide (i = j)) := by
  rw [Nat.testBit_or, Nat.one_shiftLeft, Nat.testBit_two_pow]

theorem unseen_see_le (p : Program) (seen i : ℕ) : p.unseen (seen ||| 1 <<< i) ≤ p.unseen seen :=
  Finset.card_le_card fun j => by
    simp only [Finset.mem_filter, testBit_see, Bool.or_eq_false_iff]
    exact fun h => ⟨h.1, h.2.1⟩

theorem unseen_see_lt (h : seen.testBit i = false) (hi : i < p.code.size) :
    p.unseen (seen ||| 1 <<< i) < p.unseen seen := by
  refine Finset.card_lt_card (Finset.ssubset_iff_subset_ne.2 ⟨fun j => ?_, fun heq => ?_⟩)
  · simp only [Finset.mem_filter, testBit_see, Bool.or_eq_false_iff]
    exact fun h => ⟨h.1, h.2.1⟩
  · have hmem : i ∈ (Finset.range p.code.size).filter fun i => seen.testBit i = false := by
      simp [hi, h]
    rw [← heq] at hmem
    simp at hmem

/-- What has been seen goes on to what has been seen or is still to be followed, and what waits
    among it has been found. -/
def Followed (p : Program) (here : Here) (stack : List Thread) (seen : ℕ) (found : List Thread) :
    Prop :=
  ∀ i, seen.testBit i → (∀ j ∈ p.onward here i, seen.testBit j ∨ ∃ t ∈ stack, t.place = j) ∧
    (p.waits i → ∃ t ∈ found, t.place = i)

theorem Followed.testBit_of_reaches (h : p.Followed here [] seen found) (hi : seen.testBit i)
    (hreaches : p.Reaches here i j) : seen.testBit j := by
  induction hreaches with
  | refl => exact hi
  | tail _ hstep ih => exact ((h _ ih).1 _ hstep).resolve_right (by simp)

/-- A way to an instruction that has been seen need not be followed. -/
theorem Followed.pop (h : p.Followed here (t :: stack) seen found) (hseen : seen.testBit t.place) :
    p.Followed here stack seen found := by
  refine fun i hi => ⟨fun j hj => ?_, (h i hi).2⟩
  obtain hj | ⟨u, hu, rfl⟩ := (h i hi).1 j hj
  · exact .inl hj
  · obtain rfl | hu := List.mem_cons.1 hu
    · exact .inl hseen
    · exact .inr ⟨u, hu, rfl⟩

/-- A way is followed by seeing its instruction and following all that comes after it. -/
theorem Followed.see {more : List Thread} (h : p.Followed here (t :: stack) seen found)
    (hmore : more.map (·.place) = p.onward here t.place) :
    p.Followed here (more ++ stack) (seen ||| 1 <<< t.place)
      (if p.waits t.place then t :: found else found) := by
  intro i hi
  simp only [testBit_see, Bool.or_eq_true, decide_eq_true_iff] at hi ⊢
  obtain hi | rfl := hi
  · refine ⟨fun j hj => ?_, fun hwaits => ?_⟩
    · obtain hj | ⟨u, hu, rfl⟩ := (h i hi).1 j hj
      · exact .inl (.inl hj)
      · obtain rfl | hu := List.mem_cons.1 hu
        · exact .inl (.inr rfl)
        · exact .inr ⟨u, List.mem_append_right _ hu, rfl⟩
    · obtain ⟨u, hu, hplace⟩ := (h i hi).2 hwaits
      split_ifs
      · exact ⟨u, List.mem_cons_of_mem _ hu, hplace⟩
      · exact ⟨u, hu, hplace⟩
  · refine ⟨fun j hj => ?_, fun hwaits => ?_⟩
    · rw [← hmore] at hj
      obtain ⟨u, hu, rfl⟩ := List.mem_map.1 hj
      exact .inr ⟨u, List.mem_append_left _ hu, rfl⟩
    · rw [if_pos hwaits]
      exact ⟨t, List.mem_cons_self, rfl⟩

/-- The ways that come after an instruction are paid for by seeing it. -/
theorem length_add_unseen_see_le {more : List Thread} (hseen : seen.testBit i = false)
    (hmore : more.map (·.place) = p.onward here i) :
    more.length + 2 * p.unseen (seen ||| 1 <<< i) ≤ 2 * p.unseen seen := by
  have hle := length_onward_le p here i
  have hcount := unseen_see_le p seen i
  rw [← List.length_map (·.place), hmore]
  by_cases hplace : i < p.code.size
  · have hlt := unseen_see_lt hseen hplace
    omega
  · rw [onward_eq_nil (Nat.le_of_not_lt hplace), List.length_nil]
    omega

/-- Following ways to their ends keeps what has been seen and found, sees all that is to be followed
    and leaves nothing to be followed. -/
theorem followed_follow (hfuel : stack.length + 2 * p.unseen seen ≤ fuel)
    (h : p.Followed here stack seen found) :
    let r := follow p here fuel stack seen found
    p.Followed here [] r.2 r.1 ∧ (∀ i, seen.testBit i → r.2.testBit i) ∧
      ∀ t ∈ stack, r.2.testBit t.place := by
  induction fuel generalizing stack seen found with
  | zero =>
    obtain rfl : stack = [] := List.length_eq_zero_iff.1 (by omega)
    exact ⟨h, fun _ hi => hi, List.forall_mem_nil _⟩
  | succ fuel ih =>
    cases stack with
    | nil => exact ⟨h, fun _ hi => hi, List.forall_mem_nil _⟩
    | cons t stack =>
      rw [List.length_cons] at hfuel
      -- A way to what has been seen is dropped. Any other one is followed, and the fuel is enough
      -- for what comes after it, since there is less left to be seen.
      by_cases hseen : seen.testBit t.place
      · obtain ⟨hfollowed, hkept, hall⟩ := ih (by omega) (h.pop hseen)
        rw [follow, if_pos hseen]
        exact ⟨hfollowed, hkept, List.forall_mem_cons.2 ⟨hkept _ hseen, hall⟩⟩
      · rw [Bool.not_eq_true] at hseen
        have hmore := map_place_goOn p here t
        have hpaid := length_add_unseen_see_le hseen hmore
        obtain ⟨hfollowed, hkept, hall⟩ := ih (by rw [List.length_append]; omega) (h.see hmore)
        have hsee : ∀ i, seen.testBit i ∨ t.place = i → (seen ||| 1 <<< t.place).testBit i := by
          intro i hi
          rwa [testBit_see, Bool.or_eq_true, decide_eq_true_iff]
        rw [follow_cons p here fuel stack found hseen]
        refine ⟨hfollowed, fun i hi => hkept i (hsee i (.inl hi)), List.forall_mem_cons.2
          ⟨hkept _ (hsee _ (.inr rfl)), fun u hu => hall u (List.mem_append_right _ hu)⟩⟩

/-- What has been found waits, and has been reached from what was to be followed. -/
theorem reaches_of_mem_follow (h : t ∈ (follow p here fuel stack seen found).1) :
    t ∈ found ∨ p.waits t.place ∧ ∃ u ∈ stack, p.Reaches here u.place t.place := by
  induction fuel generalizing stack seen found with
  | zero => exact .inl h
  | succ fuel ih =>
    cases stack with
    | nil => exact .inl h
    | cons u stack =>
      by_cases hseen : seen.testBit u.place
      · rw [follow, if_pos hseen] at h
        obtain h | ⟨hwaits, v, hv, hreaches⟩ := ih h
        · exact .inl h
        · exact .inr ⟨hwaits, v, List.mem_cons_of_mem _ hv, hreaches⟩
      · rw [Bool.not_eq_true] at hseen
        rw [follow_cons p here fuel stack found hseen] at h
        obtain h | ⟨hwaits, v, hv, hreaches⟩ := ih h
        · split_ifs at h with hwaits
          · obtain rfl | h := List.mem_cons.1 h
            · exact .inr ⟨hwaits, t, List.mem_cons_self, .refl⟩
            · exact .inl h
          · exact .inl h
        · refine .inr ⟨hwaits, ?_⟩
          obtain hv | hv := List.mem_append.1 hv
          · have honward : v.place ∈ p.onward here u.place :=
              map_place_goOn p here u ▸ List.mem_map_of_mem hv
            exact ⟨u, List.mem_cons_self, hreaches.head honward⟩
          · exact ⟨v, List.mem_cons_of_mem _ hv, hreaches⟩

/-- What waits for a character has been reached without reading one. -/
theorem exists_mem_waiting_iff : (∃ t ∈ p.waiting here threads, t.place = j) ↔
    p.waits j ∧ ∃ t ∈ threads, p.Reaches here t.place j := by
  simp only [waiting, List.mem_reverse]
  constructor
  · rintro ⟨t, ht, rfl⟩
    exact (reaches_of_mem_follow ht).resolve_left List.not_mem_nil
  · rintro ⟨hwaits, t, ht, hreaches⟩
    have hunseen : p.unseen 0 ≤ p.code.size :=
      (Finset.card_filter_le _ _).trans_eq (Finset.card_range _)
    have hnone : p.Followed here threads 0 [] := fun i hi => absurd hi (by simp)
    obtain ⟨hfollowed, -, hall⟩ := followed_follow
      (show threads.length + 2 * p.unseen 0 ≤ 2 * p.code.size + threads.length + 1 by omega) hnone
    exact (hfollowed j (hfollowed.testBit_of_reaches (hall t ht) hreaches)).2 hwaits

/-! ### Reading a character -/

/-- Whether a program comes to accepting from an instruction at a place of a text. -/
def AcceptsFrom (p : Program) (i : ℕ) (q : Spot) : Prop := ∃ n, Accepts p.code n i q

/-- What a program does after going on from an instruction without reading: it accepts, or reads
    the next character and accepts after that. -/
def Resolves (p : Program) (j : ℕ) (text : List Char) : Prop :=
  p.code[j]? = some .accept ∨ ∃ s next c cs, p.code[j]? = some (.read s next) ∧ s.contains c ∧
    text = c :: cs ∧ p.AcceptsFrom next ⟨some c, cs⟩

/-- A program accepts if it reaches an instruction that accepts, or one that reads the next
    character, after which it accepts. -/
theorem acceptsFrom_iff (offset : ℕ) {q : Spot} : p.AcceptsFrom i q ↔
    ∃ j, p.Reaches ⟨offset, q.before, q.rest.head?⟩ i j ∧ p.Resolves j q.rest := by
  constructor
  · rintro ⟨n, h⟩
    -- On the steps to accepting, up to the first one that reads.
    induction h with
    | accept hi => exact ⟨_, .refl, .inl hi⟩
    | read hi hc h => exact ⟨_, .refl, .inr ⟨_, _, _, _, hi, hc, rfl, _, h⟩⟩
    | test hi hl h ih =>
      obtain ⟨j, hreaches, hj⟩ := ih
      exact ⟨j, hreaches.head (by simp [onward, hi, hl]), hj⟩
    | save hi h ih =>
      obtain ⟨j, hreaches, hj⟩ := ih
      exact ⟨j, hreaches.head (by simp [onward, hi]), hj⟩
    | first hi h ih | second hi h ih =>
      obtain ⟨j, hreaches, hj⟩ := ih
      exact ⟨j, hreaches.head (by simp [onward, hi]), hj⟩
  · rintro ⟨j, hreaches, hj⟩
    -- On the steps that read nothing, from the last one back.
    induction hreaches using Relation.ReflTransGen.head_induction_on with
    | refl =>
      obtain hj | ⟨s, next, c, cs, hj, hc, hrest, n, h⟩ := hj
      · exact ⟨0, .accept hj⟩
      · obtain ⟨before, rest⟩ := q
        obtain rfl : rest = c :: cs := hrest
        exact ⟨n + 1, .read hj hc h⟩
    | head hstep _ ih =>
      obtain ⟨n, h⟩ := ih
      unfold onward at hstep
      split at hstep
      · next first second hi =>
        obtain rfl | rfl : _ ∨ _ := by simpa using hstep
        · exact ⟨n + 1, .first hi h⟩
        · exact ⟨n + 1, .second hi h⟩
      · next l next hi =>
        split_ifs at hstep with hl
        · obtain rfl := List.mem_singleton.1 hstep
          exact ⟨n + 1, .test hi hl h⟩
        · exact absurd hstep List.not_mem_nil
      · next slot next hi =>
        obtain rfl := List.mem_singleton.1 hstep
        exact ⟨n + 1, .save hi h⟩
      · exact absurd hstep List.not_mem_nil

theorem Resolves.waits {text : List Char} (h : p.Resolves j text) : p.waits j := by
  obtain h | ⟨s, next, c, cs, h, -⟩ := h <;> simp [Program.waits, h]

/-- One of some ways comes to accepting if what waits after them does. -/
theorem exists_acceptsFrom_iff (offset : ℕ) {text : List Char} :
    (∃ t ∈ threads, p.AcceptsFrom t.place ⟨before, text⟩) ↔
      ∃ t ∈ p.waiting ⟨offset, before, text.head?⟩ threads, p.Resolves t.place text := by
  constructor
  · rintro ⟨t, ht, h⟩
    obtain ⟨j, hreaches, hj⟩ := (acceptsFrom_iff offset).1 h
    obtain ⟨u, hu, rfl⟩ := exists_mem_waiting_iff.2 ⟨hj.waits, t, ht, hreaches⟩
    exact ⟨u, hu, hj⟩
  · rintro ⟨u, hu, hj⟩
    obtain ⟨-, t, ht, hreaches⟩ := exists_mem_waiting_iff.1 ⟨u, hu, rfl⟩
    exact ⟨t, ht, (acceptsFrom_iff offset).2 ⟨u.place, hreaches, hj⟩⟩

/-- A step finds a match if one of the ways accepts. -/
theorem isSome_step_iff : (p.step offset c ways).2.isSome ↔
    ∃ t ∈ ways, p.code[t.place]? = some .accept := by
  induction ways with
  | nil => simp [step]
  | cons t ways ih =>
    rw [step, List.exists_mem_cons_iff, ← ih]
    split
    · next h => simp [h]
    · next s next h =>
      have hne : p.code[t.place]? ≠ some .accept := by simp [h]
      simp only [hne, false_or]
      split_ifs <;> rfl
    · next haccept _ => exact (or_iff_right haccept).symm

/-- Without a match, a step lets all ways go on that can read the character. -/
theorem exists_mem_step_iff (hnone : (p.step offset c ways).2 = none) :
    (∃ t ∈ (p.step offset c ways).1, t.place = j) ↔
      ∃ t ∈ ways, ∃ s, p.code[t.place]? = some (.read s j) ∧ c.any s.contains := by
  induction ways with
  | nil => simp [step]
  | cons t ways ih =>
    rw [step] at hnone ⊢
    rw [List.exists_mem_cons_iff]
    split at hnone
    · cases hnone
    · next s next h =>
      have hrest : (p.step offset c ways).2 = none := by
        split_ifs at hnone <;> exact hnone
      rw [← ih hrest]
      simp only [h, Option.some.injEq, Instruction.read.injEq]
      split_ifs with hc
      · rw [List.exists_mem_cons_iff]
        constructor
        · rintro (rfl | h)
          · exact .inl ⟨s, ⟨rfl, rfl⟩, hc⟩
          · exact .inr h
        · rintro (⟨s, ⟨rfl, rfl⟩, -⟩ | h)
          · exact .inl rfl
          · exact .inr h
      · refine (or_iff_right ?_).symm
        rintro ⟨s, ⟨rfl, rfl⟩, hc'⟩
        exact hc hc'
    · next _ hread =>
      rw [← ih hnone]
      exact (or_iff_right fun ⟨s, hs, _⟩ => hread s j hs).symm

/-- Without a match, a step keeps whether one of the ways comes to accepting. -/
theorem exists_mem_step_acceptsFrom_iff {d : Char} {text : List Char}
    (hnone : (p.step offset (some d) ways).2 = none) :
    (∃ t ∈ (p.step offset (some d) ways).1, p.AcceptsFrom t.place ⟨some d, text⟩) ↔
      ∃ t ∈ ways, p.Resolves t.place (d :: text) := by
  constructor
  · rintro ⟨t, ht, haccepts⟩
    obtain ⟨u, hu, s, hread, hd⟩ := (exists_mem_step_iff hnone).1 ⟨t, ht, rfl⟩
    exact ⟨u, hu, .inr ⟨s, t.place, d, text, hread, by simpa using hd, rfl, haccepts⟩⟩
  · rintro ⟨u, hu, haccept | ⟨s, next, e, es, hread, he, htext, h⟩⟩
    · have hsome : (p.step offset (some d) ways).2.isSome := isSome_step_iff.2 ⟨u, hu, haccept⟩
      rw [hnone] at hsome
      cases hsome
    · obtain ⟨rfl, rfl⟩ := List.cons.inj htext
      obtain ⟨t, ht, rfl⟩ := (exists_mem_step_iff hnone).2 ⟨u, hu, s, hread, by simpa using he⟩
      exact ⟨t, ht, h⟩

/-! ### Searching -/

theorem search_cons (best : Option Slots) (d : Char) (text : List Char) :
    search p offset before threads best (d :: text) =
      let (more, accepted) := p.step offset (some d)
        (p.waiting ⟨offset, before, some d⟩ (p.entering offset threads best))
      if more.isEmpty && (accepted.or best).isSome then accepted.or best
      else search p (offset + d.utf8Size) (some d) more (accepted.or best) text := rfl

/-- A match that has been found is not lost. -/
theorem isSome_search_of_best {best : Option Slots} (hbest : best.isSome) (text : List Char) :
    (search p offset before threads best text).isSome := by
  induction text generalizing offset before threads best with
  | nil => simp [search, hbest]
  | cons c cs ih =>
    rw [search_cons]
    cases p.step offset (some c)
      (p.waiting ⟨offset, before, some c⟩ (p.entering offset threads best)) with
    | mk more accepted =>
      have hor : (accepted.or best).isSome := by simp [hbest]
      dsimp only
      split_ifs
      · exact hor
      · exact ih hor

/-- Of the ways that enter at a place without a match, one is new. -/
theorem exists_mem_entering_iff (offset : ℕ) (threads : List Thread) (P : ℕ → Prop) :
    (∃ t ∈ p.entering offset threads none, P t.place) ↔ (∃ t ∈ threads, P t.place) ∨ P p.start := by
  simp [entering, or_and_right, exists_or]

/-- The last character of a text with one more in front. -/
theorem getLast?_cons_or (d : Char) (read : List Char) (before : Option Char) :
    (d :: read).getLast?.or before = read.getLast?.or (some d) := by
  cases h : read.getLast? <;> simp [List.getLast?_cons, h]

/-- The places further on in a text start after its first character. -/
theorem exists_further_iff {P : Spot → Prop} {d : Char} {text : List Char} :
    (∃ read rest, d :: text = read ++ rest ∧ P ⟨read.getLast?.or before, rest⟩) ↔
      P ⟨before, d :: text⟩ ∨
        ∃ read rest, text = read ++ rest ∧ P ⟨read.getLast?.or (some d), rest⟩ := by
  constructor
  · rintro ⟨_ | ⟨e, read⟩, rest, htext, h⟩
    · exact .inl (htext ▸ h)
    · obtain ⟨rfl, rfl⟩ := List.cons.inj htext
      exact .inr ⟨read, rest, rfl, getLast?_cons_or d read before ▸ h⟩
  · rintro (h | ⟨read, rest, rfl, h⟩)
    · exact ⟨[], d :: text, rfl, h⟩
    · exact ⟨d :: read, rest, rfl, (getLast?_cons_or d read before).symm ▸ h⟩

/-- A search finds a match if one of the ways it starts with comes to accepting, or a new one that
    starts here or further on. -/
theorem isSome_search_iff (text : List Char) : (search p offset before threads none text).isSome ↔
    (∃ t ∈ threads, p.AcceptsFrom t.place ⟨before, text⟩) ∨
      ∃ read rest, text = read ++ rest ∧ p.AcceptsFrom p.start ⟨read.getLast?.or before, rest⟩ := by
  induction text generalizing offset before threads with
  | nil =>
    have hstart : (∃ read rest, [] = read ++ rest ∧
        p.AcceptsFrom p.start ⟨read.getLast?.or before, rest⟩) ↔
          p.AcceptsFrom p.start ⟨before, []⟩ := by
      constructor
      · rintro ⟨read, rest, hnil, h⟩
        obtain ⟨rfl, rfl⟩ := List.append_eq_nil_iff.1 hnil.symm
        exact h
      · exact fun h => ⟨[], [], rfl, h⟩
    rw [search, Option.or_none, isSome_step_iff, hstart,
      ← exists_mem_entering_iff offset threads fun i => p.AcceptsFrom i ⟨before, []⟩,
      exists_acceptsFrom_iff offset]
    simp [Resolves]
  | cons c cs ih =>
    rw [exists_further_iff, ← or_assoc,
      ← exists_mem_entering_iff offset threads fun i => p.AcceptsFrom i ⟨before, c :: cs⟩,
      exists_acceptsFrom_iff offset, search_cons]
    cases hstep : p.step offset (some c)
      (p.waiting ⟨offset, before, some c⟩ (p.entering offset threads none)) with
    | mk more accepted =>
      have hmore := congrArg Prod.fst hstep
      have haccepted := congrArg Prod.snd hstep
      dsimp only at hmore haccepted ⊢
      cases accepted with
      | some slots =>
        -- A way accepts at this place already, and the match is not lost.
        obtain ⟨t, ht, haccept⟩ := isSome_step_iff.1 (Option.isSome_of_eq_some haccepted)
        refine iff_of_true ?_ (.inl ⟨t, ht, .inl haccept⟩)
        rw [Option.some_or]
        split_ifs
        · rfl
        · exact isSome_search_of_best rfl cs
      | none =>
        -- The search goes on with the ways that read the character.
        rw [Option.none_or, Option.isSome_none, Bool.and_false, if_neg Bool.false_ne_true, ih,
          ← hmore, exists_mem_step_acceptsFrom_iff haccepted]
        rfl

end Program

/-- A pattern matches in a text if its expression matches from some place of the text on. -/
theorem isMatch_iff {r : Regex} {e : Expr} (hr : r.program = Program.ofExpr e) (text : List Char) :
    r.isMatch text ↔ ∃ read rest q, text = read ++ rest ∧ e.Matches ⟨read.getLast?, rest⟩ q := by
  rw [isMatch, hr, Program.isSome_search_iff]
  simp only [List.not_mem_nil, false_and, exists_false, false_or, Option.or_none]
  refine exists_congr fun read => exists_congr fun rest => ?_
  rw [Program.AcceptsFrom, Program.accepts_ofExpr_iff, exists_and_left]

end Autofix.Regex
