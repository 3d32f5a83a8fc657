import Autofix.Proofs.Regex.Search

/-!
# Which match is found

The match that a search finds is that of the preferred way from the first place where there is one at
all. A way is *live* where it comes to accepting (`AcceptsFrom`); of the ways that a search follows
side by side only the first live one matters (`Program.searchOn_eq`): those before it come to
nothing, though they may be the first to see an instruction, and those after it are given up in the
end. So it makes no difference what a search has followed before it comes to the place of a match
(`Program.exists_searchOn`).
-/

namespace Autofix.Regex

theorem Slots.get?_put (slots : Slots) (slot place i : ℕ) :
    (slots.put slot place).get? i = if i = slot then some place else slots.get? i := by
  unfold Slots.put Slots.get?
  by_cases hlt : slot < slots.size
  · rw [if_pos hlt]
    by_cases heq : i = slot
    · simp [heq, hlt]
    · rw [if_neg heq, Array.getElem?_setIfInBounds_ne (Ne.symm heq)]
  · have hsize : (slots ++ Array.replicate (slot - slots.size) none).size = slot := by
      simp only [Array.size_append, Array.size_replicate]
      omega
    rw [if_neg hlt, Array.getElem?_push, hsize]
    split_ifs with heq
    · rfl
    · by_cases hi : i < slots.size
      · rw [Array.getElem?_append_left hi]
      · rw [Array.getElem?_append_right (Nat.le_of_not_lt hi), Array.getElem?_replicate,
          Array.getElem?_eq_none (Nat.le_of_not_lt hi)]
        split_ifs <;> rfl

namespace Program

variable {p : Program} {here : Here} {t u : Thread}
  {stack stack' found found' ways ways' threads : List Thread} {fuel fuel' seen seen' offset : ℕ}
  {before c : Option Char} {text : List Char}

/-! ### Ways that come to nothing -/

section Following

variable {live : ℕ → Bool}

/-- Fuel that is enough for following all ways of a stack. -/
def Enough (p : Program) (fuel : ℕ) (stack : List Thread) (seen : ℕ) : Prop :=
  stack.length + 2 * p.unseen seen ≤ fuel

theorem Enough.eq_nil (h : p.Enough 0 stack seen) : stack = [] := by
  rw [Enough] at h
  exact List.length_eq_zero_iff.1 (by omega)

theorem Enough.exists_succ (h : p.Enough fuel (t :: stack) seen) : ∃ n, fuel = n + 1 := by
  rw [Enough, List.length_cons] at h
  exact Nat.exists_eq_add_one.2 (by omega)

theorem Enough.pop (h : p.Enough (fuel + 1) (t :: stack) seen) : p.Enough fuel stack seen := by
  rw [Enough, List.length_cons] at *
  omega

theorem Enough.see (h : p.Enough (fuel + 1) (t :: stack) seen)
    (hseen : seen.testBit t.place = false) (here : Here) :
    p.Enough fuel (p.goOn here t ++ stack) (seen ||| 1 <<< t.place) := by
  have hpaid := length_add_unseen_see_le hseen (map_place_goOn p here t)
  rw [Enough, List.length_cons] at h
  rw [Enough, List.length_append]
  omega

theorem enough_waiting (p : Program) (threads : List Thread) :
    p.Enough (2 * p.code.size + threads.length + 1) threads 0 := by
  have hunseen : p.unseen 0 ≤ p.code.size :=
    (Finset.card_filter_le _ _).trans_eq (Finset.card_range _)
  rw [Enough]
  omega

/-- What is found is put before what has been found. -/
theorem exists_follow_eq_append (p : Program) (here : Here) (fuel : ℕ) (stack : List Thread)
    (seen : ℕ) (found : List Thread) :
    ∃ more, (follow p here fuel stack seen found).1 = more ++ found := by
  induction fuel generalizing stack seen found with
  | zero => exact ⟨[], rfl⟩
  | succ fuel ih =>
    cases stack with
    | nil => exact ⟨[], rfl⟩
    | cons t stack =>
      by_cases hseen : seen.testBit t.place
      · rw [follow, if_pos hseen]
        exact ih stack seen found
      · rw [Bool.not_eq_true] at hseen
        rw [follow_cons p here fuel stack found hseen]
        obtain ⟨more, hmore⟩ := ih (p.goOn here t ++ stack) (seen ||| 1 <<< t.place)
          (if p.waits t.place then t :: found else found)
        rw [hmore]
        split_ifs
        · exact ⟨more ++ [t], by simp⟩
        · exact ⟨more, rfl⟩

/-- Ways further down a stack are followed after all that come before them. -/
theorem exists_follow_append (hfuel : p.Enough fuel stack seen)
    (hfuel' : p.Enough fuel' (stack ++ ways) seen) :
    ∃ more, (follow p here fuel' (stack ++ ways) seen found).1 =
      more ++ (follow p here fuel stack seen found).1 := by
  induction fuel generalizing fuel' stack seen found with
  | zero =>
    obtain rfl := hfuel.eq_nil
    exact exists_follow_eq_append p here fuel' ways seen found
  | succ fuel ih =>
    cases stack with
    | nil => exact exists_follow_eq_append p here fuel' ways seen found
    | cons t stack =>
      rw [List.cons_append] at hfuel' ⊢
      obtain ⟨fuel', rfl⟩ := hfuel'.exists_succ
      by_cases hseen : seen.testBit t.place
      · rw [follow, follow, if_pos hseen, if_pos hseen]
        exact ih hfuel.pop hfuel'.pop
      · rw [Bool.not_eq_true] at hseen
        have hsee := hfuel'.see hseen here
        rw [← List.append_assoc] at hsee
        rw [follow_cons p here fuel stack found hseen,
          follow_cons p here fuel' (stack ++ ways) found hseen, ← List.append_assoc]
        exact ih (hfuel.see hseen here) hsee

/-- The ways at live instructions. -/
def liveWays (live : ℕ → Bool) (ways : List Thread) : List Thread := ways.filter (live ·.place)

@[simp] theorem liveWays_nil : liveWays live [] = [] := rfl

theorem liveWays_append (live : ℕ → Bool) (ways ways' : List Thread) :
    liveWays live (ways ++ ways') = liveWays live ways ++ liveWays live ways' :=
  List.filter_append ..

theorem liveWays_cons_of_live (h : live t.place = true) :
    liveWays live (t :: ways) = t :: liveWays live ways :=
  List.filter_cons_of_pos (p := fun t : Thread => live t.place) h

theorem liveWays_cons_of_dead (h : live t.place = false) :
    liveWays live (t :: ways) = liveWays live ways :=
  List.filter_cons_of_neg (p := fun t : Thread => live t.place) (by simp [h])

theorem liveWays_eq_nil_iff : liveWays live ways = [] ↔ ∀ t ∈ ways, live t.place = false := by
  simp [liveWays]

/-- Where nothing live comes after an instruction that is not. -/
def Deadly (p : Program) (here : Here) (live : ℕ → Bool) : Prop :=
  ∀ i, live i = false → ∀ j ∈ p.onward here i, live j = false

/-- Following the ways on a stack up to the first live one changes nothing about what is live. -/
theorem exists_follow_skip (hdead : p.Deadly here live) (hfuel : p.Enough fuel stack seen) :
    ∃ fuel' ≤ fuel, ∃ stack' seen' found',
      follow p here fuel stack seen found = follow p here fuel' stack' seen' found' ∧
      p.Enough fuel' stack' seen' ∧ liveWays live stack' = liveWays live stack ∧
      (∀ i, live i → seen'.testBit i = seen.testBit i) ∧
      liveWays live found' = liveWays live found ∧ ∀ t ∈ stack'.head?, live t.place := by
  induction fuel generalizing stack seen found with
  | zero =>
    obtain rfl := hfuel.eq_nil
    exact ⟨0, le_rfl, [], seen, found, rfl, hfuel, rfl, fun _ _ => rfl, rfl, nofun⟩
  | succ fuel ih =>
    cases stack with
    | nil => exact ⟨fuel + 1, le_rfl, [], seen, found, rfl, hfuel, rfl, fun _ _ => rfl, rfl, nofun⟩
    | cons t stack =>
      cases ht : live t.place with
      | true =>
        refine ⟨fuel + 1, le_rfl, t :: stack, seen, found, rfl, hfuel, rfl, fun _ _ => rfl, rfl, ?_⟩
        exact fun u hu => Option.some.inj hu ▸ ht
      | false =>
        -- What is not live goes on to nothing live, so that skipping it loses no live way.
        rw [liveWays_cons_of_dead ht]
        by_cases hseen : seen.testBit t.place
        · obtain ⟨fuel', hle, stack', seen', found', heq, h⟩ := ih hfuel.pop
          rw [follow, if_pos hseen, heq]
          exact ⟨fuel', by omega, stack', seen', found', rfl, h⟩
        · rw [Bool.not_eq_true] at hseen
          obtain ⟨fuel', hle, stack', seen', found', heq, henough, hstack, hsee, hfound, hhead⟩ :=
            ih
              (hfuel.see hseen here)
          rw [follow_cons p here fuel stack found hseen, heq]
          refine ⟨fuel', by omega, stack', seen', found', rfl, henough, ?_, ?_, ?_, hhead⟩
          · have hnone : liveWays live (p.goOn here t) = [] := by
              refine liveWays_eq_nil_iff.2 fun u hu => hdead _ ht _ ?_
              exact map_place_goOn p here t ▸ List.mem_map_of_mem hu
            rw [hstack, liveWays_append, hnone, List.nil_append]
          · intro i hi
            have hne : t.place ≠ i := fun heq => by simp [← heq, ht] at hi
            rw [hsee i hi, testBit_see, decide_eq_false hne, Bool.or_false]
          · rw [hfound]
            split_ifs
            · exact liveWays_cons_of_dead ht
            · rfl

/-- The live ways that are found only depend on the live ways that are followed. -/
theorem liveWays_follow (hdead : p.Deadly here live) (hfuel : p.Enough fuel stack seen)
    (hfuel' : p.Enough fuel' stack' seen') (hstack : liveWays live stack = liveWays live stack')
    (hseen : ∀ i, live i → seen.testBit i = seen'.testBit i)
    (hfound : liveWays live found = liveWays live found') :
    liveWays live (follow p here fuel stack seen found).1 =
      liveWays live (follow p here fuel' stack' seen' found').1 := by
  induction fuel using Nat.strong_induction_on
    generalizing fuel' stack stack' seen seen' found found' with
  | _ fuel ih =>
  -- Both sides skip what is not live, and come to the same live way, or to their ends.
  obtain ⟨n, hn, rest, see, find, heq, henough, hrest, hsee, hfind, hhead⟩ :=
    exists_follow_skip hdead hfuel
  obtain ⟨n', -, rest', see', find', heq', henough', hrest', hsee', hfind', hhead'⟩ :=
    exists_follow_skip hdead hfuel'
  rw [heq, heq']
  rw [← hrest, ← hrest'] at hstack
  rw [← hfind, ← hfind'] at hfound
  replace hseen : ∀ i, live i → see.testBit i = see'.testBit i := fun i hi => by
    rw [hsee i hi, hsee' i hi, hseen i hi]
  cases rest with
  | nil =>
    cases rest' with
    | nil => cases n <;> cases n' <;> exact hfound
    | cons t' rest' =>
      rw [liveWays_cons_of_live (hhead' t' rfl)] at hstack
      cases hstack
  | cons t rest =>
    have ht := hhead t rfl
    cases rest' with
    | nil =>
      rw [liveWays_cons_of_live ht] at hstack
      cases hstack
    | cons t' rest' =>
      rw [liveWays_cons_of_live ht, liveWays_cons_of_live (hhead' t' rfl)] at hstack
      obtain ⟨rfl, hrests⟩ := List.cons.inj hstack
      obtain ⟨n, rfl⟩ := henough.exists_succ
      obtain ⟨n', rfl⟩ := henough'.exists_succ
      by_cases hs : see.testBit t.place
      · rw [follow, follow, if_pos hs, if_pos (hseen _ ht ▸ hs)]
        exact ih n (by omega) henough.pop henough'.pop hrests hseen hfound
      · rw [Bool.not_eq_true] at hs
        have hs' := (hseen _ ht).symm.trans hs
        rw [follow_cons p here n rest find hs, follow_cons p here n' rest' find' hs']
        refine ih n (by omega) (henough.see hs here) (henough'.see hs' here) ?_ ?_ ?_
        · rw [liveWays_append, liveWays_append, hrests]
        · intro i hi
          rw [testBit_see, testBit_see, hseen i hi]
        · split_ifs
          · rw [liveWays_cons_of_live ht, liveWays_cons_of_live ht, hfound]
          · exact hfound

/-- The live ways that wait for a character only depend on the live ways that have been followed. -/
theorem liveWays_waiting (hdead : p.Deadly here live)
    (h : liveWays live ways = liveWays live ways') :
    liveWays live (p.waiting here ways) = liveWays live (p.waiting here ways') := by
  have hfollow := liveWays_follow hdead (enough_waiting p ways) (enough_waiting p ways') h
    (fun _ _ => rfl) (rfl : liveWays live [] = liveWays live [])
  simp only [liveWays] at hfollow
  rw [waiting, waiting, liveWays, liveWays, List.filter_reverse, List.filter_reverse, hfollow]

theorem exists_waiting_append (p : Program) (here : Here) (ways ways' : List Thread) :
    ∃ more, p.waiting here (ways ++ ways') = p.waiting here ways ++ more := by
  obtain ⟨more, hmore⟩ := exists_follow_append
    (enough_waiting p ways) (enough_waiting p (ways ++ ways'))
  exact ⟨more.reverse, by rw [waiting, waiting, hmore, List.reverse_append]⟩

end Following

/-! ### The first live way -/

open Classical in
/-- Whether an instruction is live at a place of a text: whether the program comes to accepting. -/
noncomputable def live (p : Program) (q : Spot) (i : ℕ) : Bool := decide (p.AcceptsFrom i q)

theorem live_iff {q : Spot} {i : ℕ} : p.live q i ↔ p.AcceptsFrom i q := by simp [live]

theorem live_eq_false_iff {q : Spot} {i : ℕ} : p.live q i = false ↔ ¬p.AcceptsFrom i q := by
  simp [live]

theorem deadly_live (p : Program) (offset : ℕ) (q : Spot) :
    p.Deadly ⟨offset, q.before, q.rest.head?⟩ (p.live q) := by
  intro i hi j hj
  rw [live_eq_false_iff] at hi ⊢
  intro haccepts
  obtain ⟨k, hreaches, hk⟩ := (acceptsFrom_iff offset).1 haccepts
  exact hi ((acceptsFrom_iff offset).2 ⟨k, hreaches.head hj, hk⟩)

/-- What waits for a character is live if it resolves. -/
theorem live_iff_of_waits {q : Spot} {i : ℕ} (hwaits : p.waits i) :
    p.live q i ↔ p.Resolves i q.rest := by
  rw [live_iff, acceptsFrom_iff 0]
  constructor
  · rintro ⟨j, hreaches, hj⟩
    have hnone : ∀ here : Here, p.onward here i = [] := fun here => by
      unfold waits at hwaits
      unfold onward
      split at hwaits <;> simp_all
    obtain rfl | ⟨k, hk, -⟩ := hreaches.cases_head
    · exact hj
    · rw [hnone] at hk
      cases hk
  · exact fun h => ⟨i, .refl, h⟩

theorem waits_of_mem_waiting (ht : t ∈ p.waiting here ways) : p.waits t.place :=
  (exists_mem_waiting_iff.1 ⟨t, ht, rfl⟩).1

/-- The first live way to wait for a character is the one that the first live way comes to. -/
theorem head?_liveWays_waiting (offset : ℕ) {q : Spot}
    (h : (liveWays (p.live q) ways).head? = some t) :
    ∃ u, (liveWays (p.live q) (p.waiting ⟨offset, q.before, q.rest.head?⟩ ways)).head? = some u ∧
      (liveWays (p.live q) (p.waiting ⟨offset, q.before, q.rest.head?⟩ [t])).head? = some u := by
  rw [liveWays, List.head?_filter, List.find?_eq_some_iff_append] at h
  obtain ⟨ht, first, rest, rfl, hfirst⟩ := h
  have hsame : liveWays (p.live q) (first ++ [t]) = liveWays (p.live q) [t] := by
    have hnone : liveWays (p.live q) first = [] :=
      liveWays_eq_nil_iff.2 fun u hu => by simpa using hfirst u hu
    rw [liveWays_append, hnone, List.nil_append]
  have hsome : liveWays (p.live q) (p.waiting ⟨offset, q.before, q.rest.head?⟩ [t]) ≠ [] := by
    obtain ⟨u, hu, hresolves⟩ := (exists_acceptsFrom_iff offset).1
      ⟨t, List.mem_singleton_self t, live_iff.1 ht⟩
    intro hnil
    have hdead := liveWays_eq_nil_iff.1 hnil u hu
    rw [(live_iff_of_waits (waits_of_mem_waiting hu)).2 hresolves] at hdead
    cases hdead
  obtain ⟨u, us, hus⟩ := List.exists_cons_of_ne_nil hsome
  obtain ⟨more, hmore⟩ := exists_waiting_append p ⟨offset, q.before, q.rest.head?⟩
    (first ++ [t]) rest
  refine ⟨u, ?_, by rw [hus]; rfl⟩
  rw [List.append_cons, hmore, liveWays_append,
    liveWays_waiting (deadly_live p offset q) hsame, hus]
  rfl

/-- Where nothing is live, nothing that waits for a character is. -/
theorem liveWays_waiting_eq_nil (offset : ℕ) {q : Spot} (h : liveWays (p.live q) ways = []) :
    liveWays (p.live q) (p.waiting ⟨offset, q.before, q.rest.head?⟩ ways) = [] :=
  (liveWays_waiting (deadly_live p offset q) (h.trans liveWays_nil.symm)).trans (by simp [waiting, follow])

/-! ### Letting the first live way read -/

/-- A way that comes to nothing makes no difference to a step. -/
theorem step_cons_dead (offset : ℕ) (ways : List Thread) (hwaits : p.waits t.place)
    (ht : p.live ⟨before, text⟩ t.place = false) :
    (p.step offset text.head? (t :: ways)).2 = (p.step offset text.head? ways).2 ∧
      ∀ d cs, text = d :: cs →
        liveWays (p.live ⟨some d, cs⟩) (p.step offset text.head? (t :: ways)).1 =
          liveWays (p.live ⟨some d, cs⟩) (p.step offset text.head? ways).1 := by
  have hnot : ¬p.Resolves t.place text := fun h => by
    rw [(live_iff_of_waits (q := ⟨before, text⟩) hwaits).2 h] at ht
    cases ht
  rw [step]
  unfold waits at hwaits
  split at hwaits
  · next s next hread =>
    rw [hread]
    dsimp only
    refine ⟨by split_ifs <;> rfl, ?_⟩
    rintro d cs rfl
    split_ifs with hd
    · refine liveWays_cons_of_dead (live_eq_false_iff.2 fun haccepts => hnot ?_)
      exact .inr ⟨s, next, d, cs, hread, by simpa using hd, rfl, haccepts⟩
    · rfl
  · next haccept => exact absurd (.inl haccept) hnot
  · cases hwaits

/-- The first live way accepts, or reads and is the first live one then, too. -/
theorem step_of_head? (offset : ℕ) (hwaits : ∀ t ∈ ways, p.waits t.place)
    (h : (liveWays (p.live ⟨before, text⟩) ways).head? = some u) :
    (p.code[u.place]? = some .accept ∧
      (p.step offset text.head? ways).2 = some (u.slots.put 1 offset) ∧
      ∀ d cs, text = d :: cs →
        liveWays (p.live ⟨some d, cs⟩) (p.step offset text.head? ways).1 = []) ∨
    ∃ s next d cs, p.code[u.place]? = some (.read s next) ∧ text = d :: cs ∧
      (liveWays (p.live ⟨some d, cs⟩) (p.step offset text.head? ways).1).head? =
        some ⟨next, u.slots⟩ := by
  induction ways with
  | nil => cases h
  | cons t ways ih =>
    have htwaits := hwaits t List.mem_cons_self
    cases ht : p.live ⟨before, text⟩ t.place with
    | false =>
      rw [liveWays_cons_of_dead ht] at h
      obtain ⟨hbest, hmore⟩ := step_cons_dead offset ways htwaits ht
      rw [hbest]
      obtain ⟨haccept, hslots, hdead⟩ | ⟨s, next, d, cs, hread, rfl, hhead⟩ :=
        ih (fun t ht => hwaits t (List.mem_cons_of_mem _ ht)) h
      · refine .inl ⟨haccept, hslots, fun d cs htext => ?_⟩
        exact (hmore d cs htext).trans (hdead d cs htext)
      · exact .inr ⟨s, next, d, cs, hread, rfl, by rw [hmore d cs rfl, hhead]⟩
    | true =>
      rw [liveWays_cons_of_live ht, List.head?_cons] at h
      obtain rfl := Option.some.inj h
      obtain haccept | ⟨s, next, d, cs, hread, hd, rfl, haccepts⟩ := (live_iff_of_waits htwaits).1 ht
      · rw [step, haccept]
        exact .inl ⟨rfl, rfl, fun _ _ _ => rfl⟩
      · refine .inr ⟨s, next, d, cs, hread, rfl, ?_⟩
        have hcan : (d :: cs).head?.any s.contains = true := hd
        rw [step, hread]
        dsimp only
        rw [if_pos hcan, liveWays_cons_of_live (live_iff.2 haccepts)]
        rfl

/-- If nothing is live, a step finds no match and leaves nothing live. -/
theorem step_of_dead (offset : ℕ) (hwaits : ∀ t ∈ ways, p.waits t.place)
    (h : liveWays (p.live ⟨before, text⟩) ways = []) :
    (p.step offset text.head? ways).2 = none ∧ ∀ d cs, text = d :: cs →
      liveWays (p.live ⟨some d, cs⟩) (p.step offset text.head? ways).1 = [] := by
  induction ways with
  | nil => exact ⟨rfl, fun _ _ _ => rfl⟩
  | cons t ways ih =>
    have ht := liveWays_eq_nil_iff.1 h t List.mem_cons_self
    rw [liveWays_cons_of_dead ht] at h
    obtain ⟨hbest, hmore⟩ := step_cons_dead offset ways (hwaits t List.mem_cons_self) ht
    obtain ⟨hnone, hdead⟩ := ih (fun t ht => hwaits t (List.mem_cons_of_mem _ ht)) h
    exact ⟨hbest.trans hnone, fun d cs htext => (hmore d cs htext).trans (hdead d cs htext)⟩

/-! ### Searching -/

/-- Searches the rest of a text with the ways that have entered. -/
def searchOn (p : Program) (offset : ℕ) (before : Option Char) (ways : List Thread)
    (best : Option Slots) : List Char → Option Slots
  | [] => (p.step offset none (p.waiting ⟨offset, before, none⟩ ways)).2.or best
  | c :: cs =>
    let (more, accepted) := p.step offset (some c) (p.waiting ⟨offset, before, some c⟩ ways)
    if more.isEmpty && (accepted.or best).isSome then accepted.or best
    else search p (offset + c.utf8Size) (some c) more (accepted.or best) cs

theorem search_eq_searchOn (p : Program) (offset : ℕ) (before : Option Char)
    (threads : List Thread) (best : Option Slots) (text : List Char) :
    search p offset before threads best text =
      searchOn p offset before (p.entering offset threads best) best text := by
  cases text <;> rfl

theorem entering_of_isSome {best : Option Slots} (h : best.isSome) :
    p.entering offset threads best = threads := by
  rw [entering, if_neg (by simpa using Option.isSome_iff_ne_none.1 h)]

/-- One round of a search that has a match: no way enters any more, and when no way goes on the search
    ends with what it has kept. -/
theorem searchOn_cons (p : Program) (offset : ℕ) (before : Option Char) (ways : List Thread)
    (best : Slots) (c : Char) (cs : List Char) :
    let stepped := p.step offset (some c) (p.waiting ⟨offset, before, some c⟩ ways)
    ∃ kept, stepped.2.or (some best) = some kept ∧
      searchOn p offset before ways (some best) (c :: cs) =
        if stepped.1.isEmpty then some kept
        else searchOn p (offset + c.utf8Size) (some c) stepped.1 (some kept) cs := by
  intro stepped
  obtain ⟨kept, hkept⟩ : ∃ kept, stepped.2.or (some best) = some kept :=
    Option.isSome_iff_exists.1 (by simp)
  refine ⟨kept, hkept, ?_⟩
  rw [searchOn]
  dsimp only
  rw [hkept, Option.isSome_some, Bool.and_true, search_eq_searchOn, entering_of_isSome rfl]

/-- A match is kept if nothing is live. -/
theorem searchOn_of_dead {best : Slots} (h : liveWays (p.live ⟨before, text⟩) ways = []) :
    searchOn p offset before ways (some best) text = some best := by
  induction text generalizing offset before ways with
  | nil =>
    obtain ⟨hnone, -⟩ := step_of_dead offset
      (fun t => waits_of_mem_waiting) (liveWays_waiting_eq_nil offset h)
    rw [searchOn, show none = ([] : List Char).head? from rfl, hnone]
    rfl
  | cons c cs ih =>
    obtain ⟨hnone, hdead⟩ := step_of_dead offset
      (fun t => waits_of_mem_waiting) (liveWays_waiting_eq_nil offset h)
    obtain ⟨kept, hkept, heq⟩ := searchOn_cons p offset before ways best c cs
    rw [List.head?_cons] at hnone hdead
    rw [hnone, Option.none_or] at hkept
    obtain rfl := Option.some.inj hkept
    rw [heq, ih (hdead c cs rfl), ite_self]

theorem search_of_dead {best : Slots} (h : liveWays (p.live ⟨before, text⟩) ways = []) :
    search p offset before ways (some best) text = some best := by
  rw [search_eq_searchOn, entering_of_isSome rfl, searchOn_of_dead h]

/-- A search comes to what the first live way comes to: it accepts, or it reads a character and is the
    first live one after that. -/
theorem searchOn_of_head? (best : Option Slots)
    (h : (liveWays (p.live ⟨before, text⟩) ways).head? = some t) :
    ∃ u, (liveWays (p.live ⟨before, text⟩)
        (p.waiting ⟨offset, before, text.head?⟩ [t])).head? = some u ∧
      (p.code[u.place]? = some .accept ∧
          searchOn p offset before ways best text = some (u.slots.put 1 offset) ∨
        ∃ s next c cs more best', p.code[u.place]? = some (.read s next) ∧ text = c :: cs ∧
          (liveWays (p.live ⟨some c, cs⟩) more).head? = some ⟨next, u.slots⟩ ∧
          searchOn p offset before ways best text =
            searchOn p (offset + c.utf8Size) (some c) more best' cs) := by
  obtain ⟨u, hu, hone⟩ := head?_liveWays_waiting offset h
  refine ⟨u, hone, ?_⟩
  obtain ⟨haccept, hslots, hdead⟩ | ⟨s, next, c, cs, hread, rfl, hhead⟩ :=
    step_of_head? offset (fun t => waits_of_mem_waiting) hu
  · refine .inl ⟨haccept, ?_⟩
    cases text with
    | nil => exact congrArg (·.or best) hslots
    | cons c cs =>
      -- The ways that go on come to nothing.
      have hslots' : (p.step offset (some c) (p.waiting ⟨offset, before, some c⟩ ways)).2 =
          some (u.slots.put 1 offset) := hslots
      have hdead' : liveWays (p.live ⟨some c, cs⟩)
          (p.step offset (some c) (p.waiting ⟨offset, before, some c⟩ ways)).1 = [] :=
        hdead c cs rfl
      rw [searchOn]
      dsimp only
      rw [hslots', Option.some_or, search_of_dead hdead', ite_self]
  · have hhead' : (liveWays (p.live ⟨some c, cs⟩) (p.step offset (some c)
        (p.waiting ⟨offset, before, some c⟩ ways)).1).head? = some ⟨next, u.slots⟩ := hhead
    rw [searchOn]
    cases hstep : p.step offset (some c) (p.waiting ⟨offset, before, some c⟩ ways) with
    | mk more accepted =>
      rw [hstep] at hhead'
      refine .inr ⟨s, next, c, cs, p.entering (offset + c.utf8Size) more (accepted.or best),
        accepted.or best, hread, rfl, ?_, ?_⟩
      · rw [entering]
        split_ifs
        · rw [liveWays_append, List.head?_append, hhead']
          rfl
        · exact hhead'
      · have hne : more.isEmpty = false := by
          refine Bool.eq_false_iff.2 fun hempty => ?_
          rw [List.isEmpty_iff.1 hempty] at hhead'
          cases hhead'
        dsimp only
        rw [hne, Bool.false_and, if_neg Bool.false_ne_true, search_eq_searchOn]

/-- A search only depends on the first live way. -/
theorem searchOn_eq (best best' : Option Slots)
    (h : (liveWays (p.live ⟨before, text⟩) ways).head? = some t)
    (h' : (liveWays (p.live ⟨before, text⟩) ways').head? = some t) :
    searchOn p offset before ways best text = searchOn p offset before ways' best' text := by
  induction text generalizing offset before ways ways' t best best' with
  | nil =>
    obtain ⟨u, hu, ⟨-, heq⟩ | ⟨s, next, c, cs, -, -, -, hnil, -⟩⟩ :=
      searchOn_of_head? best h
    · obtain ⟨u', hu', ⟨-, heq'⟩ | ⟨s, next, c, cs, -, -, -, hnil, -⟩⟩ :=
        searchOn_of_head? best' h'
      · obtain rfl := Option.some.inj (hu.symm.trans hu')
        rw [heq, heq']
      · cases hnil
    · cases hnil
  | cons c cs ih =>
    -- Both searches come to the same first live way, which accepts in both or reads in both.
    obtain ⟨u, hu, hcases⟩ := searchOn_of_head? best h
    obtain ⟨u', hu', hcases'⟩ := searchOn_of_head? best' h'
    obtain rfl := Option.some.inj (hu.symm.trans hu')
    obtain ⟨haccept, heq⟩ | ⟨s, next, d, ds, more, kept, hread, htext, hhead, heq⟩ := hcases
    · obtain ⟨-, heq'⟩ | ⟨s, next, d, ds, -, -, hread, -⟩ := hcases'
      · rw [heq, heq']
      · cases haccept.symm.trans hread
    · obtain ⟨haccept, -⟩ | ⟨s', next', d', ds', more', kept', hread', htext', hhead', heq'⟩ :=
        hcases'
      · cases haccept.symm.trans hread
      · obtain ⟨rfl, rfl⟩ := List.cons.inj htext
        obtain ⟨rfl, rfl⟩ := List.cons.inj htext'
        obtain ⟨rfl, rfl⟩ := Instruction.read.inj (Option.some.inj (hread.symm.trans hread'))
        rw [heq, heq']
        exact ih kept kept' hhead hhead'

/-! ### The first place with a match -/

/-- The way that enters at an offset. -/
def entrant (p : Program) (offset : ℕ) : Thread := ⟨p.start, Slots.put #[] 0 offset⟩

/-- Where a new way is live and no other one is, a search comes to what the new one comes to. -/
theorem search_of_start (best : Option Slots)
    (hdead : liveWays (p.live ⟨before, text⟩) threads = [])
    (hstart : p.AcceptsFrom p.start ⟨before, text⟩) :
    search p offset before threads none text =
      searchOn p offset before [p.entrant offset] best text := by
  have hlive : liveWays (p.live ⟨before, text⟩) [p.entrant offset] = [p.entrant offset] :=
    liveWays_cons_of_live (live_iff.2 hstart)
  have hentering : p.entering offset threads none = threads ++ [p.entrant offset] := rfl
  rw [search_eq_searchOn, hentering]
  exact searchOn_eq none best (by rw [liveWays_append, hdead, hlive]; rfl) (by rw [hlive]; rfl)

/-- Where no way is live, nor a new one, a search goes on with ways that are not. -/
theorem search_of_dead_start (hdead : liveWays (p.live ⟨before, text⟩) threads = [])
    (hstart : ¬p.AcceptsFrom p.start ⟨before, text⟩) :
    (text = [] → search p offset before threads none text = none) ∧
    ∀ c cs, text = c :: cs → ∃ more, liveWays (p.live ⟨some c, cs⟩) more = [] ∧
      search p offset before threads none text =
        search p (offset + c.utf8Size) (some c) more none cs := by
  have hentering : liveWays (p.live ⟨before, text⟩) (p.entering offset threads none) = [] := by
    have hnone : liveWays (p.live ⟨before, text⟩) [p.entrant offset] = [] :=
      liveWays_cons_of_dead (live_eq_false_iff.2 hstart)
    exact (liveWays_append ..).trans (by rw [hdead]; exact hnone)
  obtain ⟨hnone, hmore⟩ := step_of_dead offset
    (fun t => waits_of_mem_waiting) (liveWays_waiting_eq_nil offset hentering)
  constructor
  · rintro rfl
    exact congrArg (·.or none) hnone
  · rintro c cs rfl
    refine ⟨_, hmore c cs rfl, ?_⟩
    have hnone' : (p.step offset (some c) (p.waiting ⟨offset, before, some c⟩
        (p.entering offset threads none))).2 = none := hnone
    rw [search_cons]
    dsimp only
    rw [hnone', Option.none_or, Option.isSome_none, Bool.and_false, if_neg Bool.false_ne_true]
    rfl

/-- A search without any live way to begin with comes to what the way comes to that enters at the
    first place where it is live. -/
theorem exists_searchOn {slots : Slots} (hdead : liveWays (p.live ⟨before, text⟩) threads = [])
    (h : search p offset before threads none text = some slots) :
    ∃ gap rest, text = gap ++ rest ∧
      p.AcceptsFrom p.start ⟨gap.getLast?.or before, rest⟩ ∧
      (∀ gap' rest', text = gap' ++ rest' →
        p.AcceptsFrom p.start ⟨gap'.getLast?.or before, rest'⟩ → gap.length ≤ gap'.length) ∧
      ∀ best, searchOn p (offset + Text.size gap) (gap.getLast?.or before)
        [p.entrant (offset + Text.size gap)] best rest = some slots := by
  induction text generalizing offset before threads with
  | nil =>
    by_cases hstart : p.AcceptsFrom p.start ⟨before, []⟩
    · exact ⟨[], [], rfl, hstart, fun _ _ _ _ => Nat.zero_le _,
        fun best => (search_of_start best hdead hstart).symm.trans h⟩
    · cases ((search_of_dead_start hdead hstart).1 rfl).symm.trans h
  | cons c cs ih =>
    by_cases hstart : p.AcceptsFrom p.start ⟨before, c :: cs⟩
    · exact ⟨[], c :: cs, rfl, hstart, fun _ _ _ _ => Nat.zero_le _,
        fun best => (search_of_start best hdead hstart).symm.trans h⟩
    · -- With no way live here either, the search goes on as if it started at the next place.
      obtain ⟨more, hmore, heq⟩ := (search_of_dead_start hdead hstart).2 c cs rfl
      obtain ⟨gap, rest, rfl, haccepts, hfirst, hsearch⟩ := ih hmore (heq.symm.trans h)
      have hsize : offset + c.utf8Size + Text.size gap = offset + Text.size (c :: gap) := by
        rw [Text.size, Nat.add_assoc]
      rw [← getLast?_cons_or c gap before] at haccepts
      refine ⟨c :: gap, rest, rfl, haccepts, ?_, fun best => ?_⟩
      · rintro (_ | ⟨d, gap'⟩) rest' htext haccepts'
        · obtain rfl : c :: (gap ++ rest) = rest' := htext
          exact absurd haccepts' hstart
        · obtain ⟨rfl, htail⟩ := List.cons.inj htext
          rw [getLast?_cons_or] at haccepts'
          exact Nat.succ_le_succ (hfirst gap' rest' htail haccepts')
      · rw [getLast?_cons_or, ← hsize]
        exact hsearch best

/-! ### What is kept of a match -/

/-- The code keeps places of groups only, not of the match as a whole. -/
def SavesGroups (p : Program) : Prop :=
  ∀ (i slot next : ℕ), p.code[i]? = some (.save slot next) → slot ≠ 0 ∧ slot ≠ 1

/-- The offset at which a way has started. -/
def StartsAt (k : ℕ) (slots : Slots) : Prop := slots.get? 0 = some k

variable {k : ℕ}

theorem startsAt_entrant (p : Program) (offset : ℕ) : StartsAt offset (p.entrant offset).slots :=
  (Slots.get?_put #[] 0 offset 0).trans (if_pos rfl)

theorem startsAt_of_mem_goOn (hsaves : p.SavesGroups) (ht : StartsAt k t.slots)
    (hu : u ∈ p.goOn here t) : StartsAt k u.slots := by
  unfold goOn at hu
  split at hu
  · rcases List.mem_pair.1 hu with rfl | rfl <;> exact ht
  · split_ifs at hu
    · rw [List.mem_singleton.1 hu]
      exact ht
    · cases hu
  · next slot next hsave =>
    rw [List.mem_singleton.1 hu, StartsAt, Slots.get?_put, if_neg (hsaves _ _ _ hsave).1.symm]
    exact ht
  · cases hu

theorem startsAt_of_mem_follow (hsaves : p.SavesGroups) (hstack : ∀ t ∈ stack, StartsAt k t.slots)
    (hfound : ∀ t ∈ found, StartsAt k t.slots)
    (ht : t ∈ (follow p here fuel stack seen found).1) : StartsAt k t.slots := by
  induction fuel generalizing stack seen found with
  | zero => exact hfound t ht
  | succ fuel ih =>
    cases stack with
    | nil => exact hfound t ht
    | cons u stack =>
      obtain ⟨hu, hstack⟩ := List.forall_mem_cons.1 hstack
      by_cases hseen : seen.testBit u.place
      · rw [follow, if_pos hseen] at ht
        exact ih hstack hfound ht
      · rw [Bool.not_eq_true] at hseen
        rw [follow_cons p here fuel stack found hseen] at ht
        refine ih (fun v hv => ?_) (fun v hv => ?_) ht
        · rcases List.mem_append.1 hv with hv | hv
          · exact startsAt_of_mem_goOn hsaves hu hv
          · exact hstack v hv
        · split_ifs at hv
          · rcases List.mem_cons.1 hv with rfl | hv
            · exact hu
            · exact hfound v hv
          · exact hfound v hv

/-- The ways that go on after a step have read with what they had kept before, and what a step finds
    is what a way had kept, with the end of the match. -/
theorem kept_of_step (p : Program) (offset : ℕ) (c : Option Char) (ways : List Thread) :
    (∀ t ∈ (p.step offset c ways).1, ∃ u ∈ ways, t.slots = u.slots) ∧
      ∀ slots ∈ (p.step offset c ways).2, ∃ u ∈ ways, slots = u.slots.put 1 offset := by
  induction ways with
  | nil => exact ⟨List.forall_mem_nil _, fun _ h => by cases h⟩
  | cons t ways ih =>
    have hlift : ∀ {P : Thread → Prop}, (∃ u ∈ ways, P u) → ∃ u ∈ t :: ways, P u := by
      rintro P ⟨u, hu, h⟩
      exact ⟨u, List.mem_cons_of_mem _ hu, h⟩
    obtain ⟨hmore, hfound⟩ := ih
    rw [step]
    split
    · exact ⟨List.forall_mem_nil _,
        fun slots hslots => ⟨t, List.mem_cons_self, (Option.some.inj hslots).symm⟩⟩
    · dsimp only
      split_ifs
      · exact ⟨List.forall_mem_cons.2 ⟨⟨t, List.mem_cons_self, rfl⟩,
          fun u hu => hlift (hmore u hu)⟩, fun slots hslots => hlift (hfound slots hslots)⟩
      · exact ⟨fun u hu => hlift (hmore u hu), fun slots hslots => hlift (hfound slots hslots)⟩
    · exact ⟨fun u hu => hlift (hmore u hu), fun slots hslots => hlift (hfound slots hslots)⟩

/-- What a search finds has been found at its first place, or before, or further on. -/
theorem searchOn_eq_some {best : Option Slots} {slots : Slots}
    (h : searchOn p offset before ways best text = some slots) :
    let stepped := p.step offset text.head? (p.waiting ⟨offset, before, text.head?⟩ ways)
    stepped.2.or best = some slots ∨ ∃ c cs, text = c :: cs ∧
      search p (offset + c.utf8Size) (some c) stepped.1 (stepped.2.or best) cs = some slots := by
  cases text with
  | nil => exact .inl h
  | cons c cs =>
    rw [searchOn] at h
    dsimp only at h
    split_ifs at h
    · exact .inl h
    · exact .inr ⟨c, cs, rfl, h⟩

theorem startsAt_of_step (hsaves : p.SavesGroups) (offset : ℕ) (c : Option Char)
    {best : Option Slots} (hways : ∀ t ∈ ways, StartsAt k t.slots)
    (hbest : ∀ s ∈ best, StartsAt k s) :
    let stepped := p.step offset c (p.waiting here ways)
    (∀ t ∈ stepped.1, StartsAt k t.slots) ∧ ∀ s ∈ stepped.2.or best, StartsAt k s := by
  have hwaiting : ∀ t ∈ p.waiting here ways, StartsAt k t.slots := fun t ht =>
    startsAt_of_mem_follow hsaves hways (List.forall_mem_nil _) (List.mem_reverse.1 ht)
  obtain ⟨hmore, hfound⟩ := kept_of_step p offset c (p.waiting here ways)
  refine ⟨fun t ht => ?_, fun s hs => ?_⟩
  · obtain ⟨u, hu, heq⟩ := hmore t ht
    exact heq ▸ hwaiting u hu
  · obtain hs | ⟨-, hs⟩ := Option.or_eq_some_iff.1 hs
    · obtain ⟨u, hu, rfl⟩ := hfound s hs
      rw [StartsAt, Slots.get?_put, if_neg Nat.zero_ne_one]
      exact hwaiting u hu
    · exact hbest s hs

/-- A search with ways that start at one offset, and none that enter later, finds a match that
    starts there. -/
theorem startsAt_of_searchOn (hsaves : p.SavesGroups) {best slots : Slots}
    (hways : ∀ t ∈ ways, StartsAt k t.slots) (hbest : StartsAt k best)
    (h : searchOn p offset before ways (some best) text = some slots) : StartsAt k slots := by
  induction text generalizing offset before ways best with
  | nil =>
    obtain h | ⟨c, cs, hnil, -⟩ := searchOn_eq_some h
    · exact (startsAt_of_step hsaves offset none hways (by simpa using hbest)).2 slots h
    · cases hnil
  | cons c cs ih =>
    have hkept : ∀ s ∈ some best, StartsAt k s := by simpa using hbest
    obtain ⟨hmore, hbest'⟩ := startsAt_of_step hsaves offset (some c) hways hkept
    obtain ⟨kept, hkept, heq⟩ := searchOn_cons p offset before ways best c cs
    rw [heq] at h
    split_ifs at h
    · exact hbest' slots (hkept.trans h)
    · exact ih hmore (hbest' kept hkept) h

/-- What a step finds ends there. -/
theorem stop_of_step {c : Option Char} {found : Slots} (h : (p.step offset c ways).2 = some found) :
    found.get? 1 = some offset := by
  obtain ⟨u, -, rfl⟩ := (kept_of_step p offset c ways).2 found h
  exact (Slots.get?_put ..).trans (if_pos rfl)

/-- What is kept after a step ends there, or has been found before. -/
theorem stop_of_step_or {c : Option Char} {best : Option Slots} {kept : Slots}
    (h : (p.step offset c ways).2.or best = some kept) :
    best = some kept ∨ kept.get? 1 = some offset := by
  obtain h | ⟨-, h⟩ := Option.or_eq_some_iff.1 h
  · exact .inr (stop_of_step h)
  · exact .inl h

/-- A match ends where the search has found it. -/
theorem stop_of_searchOn {best : Option Slots} {slots : Slots}
    (h : searchOn p offset before ways best text = some slots) : best = some slots ∨
      ∃ read left, text = read ++ left ∧ slots.get? 1 = some (offset + Text.size read) := by
  induction text generalizing offset before ways best with
  | nil =>
    obtain h | ⟨c, cs, hnil, -⟩ := searchOn_eq_some h
    · exact (stop_of_step_or h).imp_right fun h => ⟨[], [], rfl, h⟩
    · cases hnil
  | cons c cs ih =>
    have hhere : best = some slots ∨ slots.get? 1 = some offset → best = some slots ∨
        ∃ read left, c :: cs = read ++ left ∧ slots.get? 1 = some (offset + Text.size read) :=
      fun h => h.imp_right fun h => ⟨[], c :: cs, rfl, h⟩
    obtain h | ⟨d, ds, htext, h⟩ := searchOn_eq_some h
    · exact hhere (stop_of_step_or h)
    · obtain ⟨rfl, rfl⟩ := List.cons.inj htext
      rw [search_eq_searchOn] at h
      obtain h | ⟨read, left, rfl, hstop⟩ := ih h
      · exact hhere (stop_of_step_or h)
      · exact .inr ⟨c :: read, left, rfl, by rw [hstop, Text.size, Nat.add_assoc]⟩

end Program

end Autofix.Regex
