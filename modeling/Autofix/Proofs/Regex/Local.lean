import Autofix.Proofs.Regex.Preferred
import Autofix.Proofs.Rule.Pattern

/-!
# Matches are found by what is around them

Whether a text is a match, and the preferred one, is seen on the text, the characters on both sides
of it and what comes after it: conditions on a place look at no other characters. So wherever a text
stands that is found somewhere as a match, between the same two characters, something is found that
reaches over its start (`Regex.exists_mem_findAll`).
-/

namespace Autofix

namespace Regex

namespace Program

variable {p : Program} {here here' : Here} {t : Thread}
  {stack stack' found found' ways ways' : List Thread} {fuel seen offset offset' groups : ℕ}
  {before : Option Char} {text rest : List Char} {m : Match}

/-! ### The same text elsewhere -/

theorem onward_congr (p : Program) (hbefore : here.before = here'.before)
    (hafter : here.after = here'.after) (i : ℕ) : p.onward here i = p.onward here' i := by
  rw [onward, onward, hbefore, hafter]

theorem map_place_follow (hbefore : here.before = here'.before) (hafter : here.after = here'.after)
    (hstack : stack.map (·.place) = stack'.map (·.place))
    (hfound : found.map (·.place) = found'.map (·.place)) :
    (follow p here fuel stack seen found).1.map (·.place) =
      (follow p here' fuel stack' seen found').1.map (·.place) := by
  induction fuel generalizing stack stack' seen found found' with
  | zero => exact hfound
  | succ fuel ih =>
    cases stack with
    | nil =>
      obtain rfl : stack' = [] := List.map_eq_nil_iff.1 hstack.symm
      exact hfound
    | cons t stack =>
      obtain ⟨t', stack', rfl, hplace, hrest⟩ := List.map_eq_cons_iff.1 hstack.symm
      by_cases hseen : seen.testBit t.place
      · rw [follow, follow, if_pos hseen, if_pos (hplace ▸ hseen)]
        exact ih hrest.symm hfound
      · rw [Bool.not_eq_true] at hseen
        rw [follow_cons p here fuel stack found hseen,
          follow_cons p here' fuel stack' found' (hplace ▸ hseen), hplace]
        refine ih ?_ ?_
        · rw [List.map_append, List.map_append, map_place_goOn, map_place_goOn, hrest, hplace,
            onward_congr p hbefore hafter]
        · split_ifs
          · rw [List.map_cons, List.map_cons, hplace, hfound]
          · exact hfound

/-- At the same place of a text ways wait at the same instructions. -/
theorem map_place_waiting (p : Program) (here here' : Here)
    (hbefore : here.before = here'.before) (hafter : here.after = here'.after)
    (h : ways.map (·.place) = ways'.map (·.place)) :
    (p.waiting here ways).map (·.place) = (p.waiting here' ways').map (·.place) := by
  have hlength : ways.length = ways'.length := by simpa using congrArg List.length h
  rw [waiting, waiting, List.map_reverse, List.map_reverse, hlength,
    map_place_follow hbefore hafter h rfl]

theorem map_place_step (offset offset' : ℕ) (c : Option Char)
    (h : ways.map (·.place) = ways'.map (·.place)) :
    (p.step offset c ways).1.map (·.place) = (p.step offset' c ways').1.map (·.place) ∧
      (p.step offset c ways).2.isSome = (p.step offset' c ways').2.isSome := by
  induction ways generalizing ways' with
  | nil =>
    obtain rfl : ways' = [] := List.map_eq_nil_iff.1 h.symm
    exact ⟨rfl, rfl⟩
  | cons t ways ih =>
    obtain ⟨t', ways', rfl, hplace, hrest⟩ := List.map_eq_cons_iff.1 h.symm
    obtain ⟨hmore, hsome⟩ := ih hrest.symm
    obtain ⟨place, slots⟩ := t'
    obtain rfl : place = t.place := hplace
    rw [step, step]
    cases hcode : p.code[t.place]? with
    | none => exact ⟨hmore, hsome⟩
    | some instruction =>
      cases instruction with
      | accept => exact ⟨rfl, rfl⟩
      | read s next =>
        dsimp only
        split_ifs
        · exact ⟨congrArg (next :: ·) hmore, hsome⟩
        · exact ⟨hmore, hsome⟩
      | _ => exact ⟨hmore, hsome⟩

theorem isEmpty_congr (h : ways.map (·.place) = ways'.map (·.place)) :
    ways.isEmpty = ways'.isEmpty := by
  rw [← List.isEmpty_map (f := fun t : Thread => t.place), h, List.isEmpty_map]

/-- Once a search has found a match, it finds one that does not end before. -/
theorem exists_stop_of_step {best : Option Slots}
    (h : (p.step offset text.head? (p.waiting ⟨offset, before, text.head?⟩ ways)).2.isSome) :
    ∃ slots read left, searchOn p offset before ways best text = some slots ∧
      text = read ++ left ∧ slots.get? 1 = some (offset + Text.size read) := by
  obtain ⟨found, hfound⟩ := Option.isSome_iff_exists.1 h
  have hstop := stop_of_step hfound
  cases text with
  | nil =>
    refine ⟨found, [], [], ?_, rfl, hstop⟩
    rw [searchOn]
    exact (congrArg (·.or best) hfound).trans (Option.some_or ..)
  | cons c cs =>
    rw [List.head?_cons] at hfound
    rw [searchOn]
    dsimp only
    rw [hfound, Option.some_or]
    split_ifs
    · exact ⟨found, [], c :: cs, rfl, rfl, hstop⟩
    · -- A search that goes on keeps the match, or comes to one that ends later.
      have hsome : (some found).isSome := rfl
      obtain ⟨slots, hslots⟩ := Option.isSome_iff_exists.1 (isSome_search_of_best (p := p) hsome cs)
      have hsearch := hslots
      rw [search_eq_searchOn] at hsearch
      obtain heq | ⟨read, left, rfl, hend⟩ := stop_of_searchOn hsearch
      · obtain rfl := Option.some.inj heq
        exact ⟨found, [], c :: cs, hslots, rfl, hstop⟩
      · exact ⟨slots, c :: read, left, hslots, rfl, by rw [hend, Text.size, Nat.add_assoc]⟩

/-- A search with a match that ends before a place, which comes to one that ends there, finds it when
    it steps over the place: neither has it been found before, nor is it found further on. -/
theorem isSome_step_of_searchOn {best slots : Slots}
    (hbest : ∀ stop, best.get? 1 = some stop → stop < offset)
    (h : searchOn p offset before ways (some best) text = some slots)
    (hstop : slots.get? 1 = some offset) :
    (p.step offset text.head? (p.waiting ⟨offset, before, text.head?⟩ ways)).2.isSome := by
  have hne : some best ≠ some slots := by
    rintro heq
    obtain rfl := Option.some.inj heq
    exact (hbest _ hstop).false
  by_contra hnone
  rw [Bool.not_eq_true, Option.isSome_eq_false_iff, Option.isNone_iff_eq_none] at hnone
  obtain h | ⟨c, cs, -, h⟩ := searchOn_eq_some h
  · exact hne (by rwa [hnone] at h)
  · rw [hnone, Option.none_or, search_eq_searchOn] at h
    obtain h | ⟨read, left, -, hend⟩ := stop_of_searchOn h
    · exact hne h
    · have hpos := c.utf8Size_pos
      rw [hstop, Option.some.injEq] at hend
      omega

/-- A search that finds a match of some text finds one elsewhere, too, that does not end before that
    text does, if the characters on both sides of it are the same. -/
theorem exists_stop_of_searchOn (offset' : ℕ) {x q q' : List Char} {best : Slots} (best' : Slots)
    {slots : Slots}
    (hhead : q.head? = q'.head?) (hways : ways.map (·.place) = ways'.map (·.place))
    (hbest : ∀ stop, best.get? 1 = some stop → stop < offset)
    (h : searchOn p offset before ways (some best) (x ++ q) = some slots)
    (hstop : slots.get? 1 = some (offset + Text.size x)) :
    ∃ slots' read left, searchOn p offset' before ways' (some best') (x ++ q') = some slots' ∧
      q' = read ++ left ∧ slots'.get? 1 = some (offset' + Text.size (x ++ read)) := by
  induction x generalizing offset offset' before ways ways' best best' with
  | nil =>
    have hwaiting := map_place_waiting p ⟨offset, before, q.head?⟩ ⟨offset', before, q.head?⟩
      rfl rfl hways
    have hsome := isSome_step_of_searchOn hbest h hstop
    rw [List.nil_append, (map_place_step offset offset' q.head? hwaiting).2, hhead] at hsome
    obtain ⟨slots', read, left, hsearch, rfl, hend⟩ := exists_stop_of_step hsome
    exact ⟨slots', read, left, hsearch, rfl, hend⟩
  | cons c x ih =>
    have hwaiting := map_place_waiting p ⟨offset, before, some c⟩ ⟨offset', before, some c⟩
      rfl rfl hways
    obtain ⟨hmore, -⟩ := map_place_step offset offset' (some c) hwaiting
    obtain ⟨kept, hkept, heq⟩ := searchOn_cons p offset before ways best c (x ++ q)
    obtain ⟨kept', -, heq'⟩ := searchOn_cons p offset' before ways' best' c (x ++ q')
    have hpos := c.utf8Size_pos
    have hlt : ∀ stop, kept.get? 1 = some stop → stop < offset + c.utf8Size := by
      intro stop hend
      obtain hbefore | hhere := stop_of_step_or hkept
      · obtain rfl := Option.some.inj hbefore
        exact (hbest stop hend).trans_le (Nat.le_add_right ..)
      · obtain rfl := Option.some.inj (hhere.symm.trans hend)
        omega
    rw [List.cons_append, heq] at h
    rw [List.cons_append, heq', ← isEmpty_congr hmore]
    split_ifs at h ⊢
    · -- Had no way gone on, the match would have been found before.
      obtain rfl := Option.some.inj h
      have hend := hlt _ hstop
      simp only [Text.size] at hend
      omega
    · obtain ⟨slots', read, left, hsearch, rfl, hend⟩ := ih (offset' + c.utf8Size) kept' hmore hlt h
        (by rw [hstop, Text.size, Nat.add_assoc])
      refine ⟨slots', read, left, hsearch, rfl, ?_⟩
      rw [hend, List.cons_append, Text.size, Nat.add_assoc]

/-! ### What a search finds -/

theorem ofSlots?_eq_some {slots : Slots} (h : Match.ofSlots? groups slots = some m) :
    slots.get? 0 = some m.start ∧ slots.get? 1 = some m.stop := by
  simp only [Match.ofSlots?, Option.bind_eq_bind, Option.bind_eq_some_iff, Option.pure_def] at h
  obtain ⟨start, hstart, stop, hstop, heq⟩ := h
  obtain rfl := Option.some.inj heq
  exact ⟨hstart, hstop⟩

theorem exists_ofSlots? {slots : Slots} {start stop : ℕ} (hstart : slots.get? 0 = some start)
    (hstop : slots.get? 1 = some stop) : ∃ m, Match.ofSlots? groups slots = some m := by
  simp only [Match.ofSlots?, hstart, hstop, Option.bind_eq_bind, Option.bind_some]
  exact ⟨_, rfl⟩

/-- What a search finds in the rest of a text, from its start on: it starts at the first place where
    there is a match at all, and is what the way comes to that enters there. -/
structure Finds (p : Program) (offset : ℕ) (before : Option Char) (rest : List Char) (m : Match)
    (gap matched left : List Char) : Prop where
  rest_eq : rest = gap ++ (matched ++ left)
  start_eq : m.start = offset + Text.size gap
  stop_eq : m.stop = m.start + Text.size matched
  accepts : p.AcceptsFrom p.start ⟨gap.getLast?.or before, matched ++ left⟩
  first : ∀ gap' rest', rest = gap' ++ rest' →
    p.AcceptsFrom p.start ⟨gap'.getLast?.or before, rest'⟩ → gap.length ≤ gap'.length
  searchOn_eq : ∃ slots : Slots, slots.get? 1 = some m.stop ∧ ∀ best,
    searchOn p m.start (gap.getLast?.or before) [p.entrant m.start] best (matched ++ left) =
      some slots

/-- What a search keeps is a match, from the first place on where there is one. -/
theorem exists_finds_of_search (hsaves : p.SavesGroups) {slots : Slots}
    (h : search p offset before [] none rest = some slots) : ∃ gap matched left,
      slots.get? 0 = some (offset + Text.size gap) ∧
      slots.get? 1 = some (offset + Text.size gap + Text.size matched) ∧
      ∀ m : Match, slots.get? 0 = some m.start → slots.get? 1 = some m.stop →
        p.Finds offset before rest m gap matched left := by
  obtain ⟨gap, tail, hrest, haccepts, hfirst, hon⟩ := exists_searchOn rfl h
  have hstart := startsAt_of_searchOn hsaves
    (List.forall_mem_singleton.2 (startsAt_entrant p (offset + Text.size gap)))
    (startsAt_entrant p (offset + Text.size gap)) (hon _)
  obtain hnone | ⟨matched, left, rfl, hstop⟩ := stop_of_searchOn (hon none)
  · cases hnone
  refine ⟨gap, matched, left, hstart, hstop, fun m hm hm' => ?_⟩
  obtain heq : m.start = offset + Text.size gap := Option.some.inj (hm.symm.trans hstart)
  rw [← heq] at hon hstop
  exact ⟨hrest, heq, Option.some.inj (hm'.symm.trans hstop), haccepts, hfirst, slots, hm', hon⟩

theorem finds_of_find? (hsaves : p.SavesGroups) (h : find? p groups offset before rest = some m) :
    ∃ gap matched left, p.Finds offset before rest m gap matched left := by
  obtain ⟨slots, hsearch, hslots⟩ := Option.bind_eq_some_iff.1 h
  obtain ⟨hstart, hstop⟩ := ofSlots?_eq_some hslots
  obtain ⟨gap, matched, left, -, -, hfinds⟩ := exists_finds_of_search hsaves hsearch
  exact ⟨gap, matched, left, hfinds m hstart hstop⟩

/-- There is a match if the program comes to accepting from some place on. -/
theorem exists_find? (hsaves : p.SavesGroups) (groups offset : ℕ) {gap tail : List Char}
    (h : p.AcceptsFrom p.start ⟨gap.getLast?.or before, tail⟩) :
    ∃ m, find? p groups offset before (gap ++ tail) = some m := by
  obtain ⟨slots, hsearch⟩ := Option.isSome_iff_exists.1
    ((isSome_search_iff (gap ++ tail)).2 (.inr ⟨gap, tail, rfl, h⟩))
  obtain ⟨gap', matched, left, hstart, hstop, -⟩ := exists_finds_of_search hsaves hsearch
  obtain ⟨m, hm⟩ := exists_ofSlots? hstart hstop
  exact ⟨m, Option.bind_eq_some_iff.2 ⟨slots, hsearch, hm⟩⟩

/-- Every match that is found has been found from some place of the text on. -/
theorem exists_find?_of_mem_findFrom (done : List Char) {last : Option ℕ}
    (hm : m ∈ findFrom p groups fuel offset done.getLast? last rest)
    (hoffset : Text.size done = offset) : ∃ done' rest', done ++ rest = done' ++ rest' ∧
      find? p groups (Text.size done') done'.getLast? rest' = some m := by
  induction fuel generalizing offset done last rest with
  | zero => cases hm
  | succ fuel ih =>
    subst hoffset
    obtain hends | ⟨c, cs, rfl, hnext⟩ |
        ⟨found, gap, matched, left, rfl, hfind, hstart, hstop, hnext⟩ :=
      findFrom_succ_cases p groups fuel (Text.size done) done.getLast? last rest
    · rw [hends] at hm
      cases hm
    · rw [hnext] at hm
      obtain ⟨done', rest', heq, hfound⟩ := ih (done ++ [c])
        (by simpa using hm) (by simp [Text.size_append, Text.size])
      exact ⟨done', rest', by simpa using heq, hfound⟩
    · rw [hnext] at hm
      rcases List.mem_cons.1 hm with rfl | hm
      · exact ⟨done, _, rfl, hfind⟩
      · rw [← List.getLast?_append] at hm
        obtain ⟨done', rest', heq, hfound⟩ := ih _ hm (by
          simp only [Text.size_append]
          omega)
        exact ⟨done', rest', by rw [← heq]; simp, hfound⟩

/-- What the way comes to that enters at a place reaches beyond that place. -/
def ReachesOn (p : Program) (offset : ℕ) (before : Option Char) (rest : List Char) : Prop :=
  ∃ (slots : Slots) (stop : ℕ), slots.get? 1 = some stop ∧ offset < stop ∧
    ∀ best, searchOn p offset before [p.entrant offset] best rest = some slots

namespace Finds

variable {gap matched left : List Char}

/-- What is found starts at no place behind one where there is a match. -/
theorem exists_middle {gap' tail : List Char}
    (hfinds : p.Finds offset before (gap' ++ tail) m gap matched left)
    (haccepts : p.AcceptsFrom p.start ⟨gap'.getLast?.or before, tail⟩) :
    ∃ mid, gap' = gap ++ mid ∧ matched ++ left = mid ++ tail := by
  have hle := hfinds.first gap' tail rfl haccepts
  obtain ⟨mid, h, h'⟩ | ⟨mid, h, h'⟩ := List.append_eq_append_iff.1 hfinds.rest_eq
  · have hmid : mid = [] := by
      rw [h, List.length_append] at hle
      exact List.length_eq_zero_iff.1 (by omega)
    subst hmid
    exact ⟨[], by simpa using h.symm, by simpa using h'.symm⟩
  · exact ⟨mid, h, h'⟩

/-- What is found is what the way comes to that enters at its start. -/
theorem start_lt_stop (hfinds : p.Finds offset before rest m gap matched left)
    (hreaches : p.ReachesOn m.start (gap.getLast?.or before) (matched ++ left)) :
    m.start < m.stop := by
  obtain ⟨slots, stop, hslots, hlt, hon⟩ := hreaches
  obtain ⟨slots', hslots', hon'⟩ := hfinds.searchOn_eq
  obtain rfl := Option.some.inj ((hon none).symm.trans (hon' none))
  obtain rfl := Option.some.inj (hslots.symm.trans hslots')
  exact hlt

end Finds

/-- What is found first is before a place at which a way comes to accepting, or at that place, and
    then it reaches beyond it if the way does. -/
theorem exists_finds (hsaves : p.SavesGroups) (groups offset : ℕ) {gap tail : List Char}
    (haccepts : p.AcceptsFrom p.start ⟨gap.getLast?.or before, tail⟩)
    (hreaches : p.ReachesOn (offset + Text.size gap) (gap.getLast?.or before) tail) :
    ∃ m gap₁ gap₂ matched left, find? p groups offset before (gap ++ tail) = some m ∧
      p.Finds offset before (gap ++ tail) m gap₁ matched left ∧ gap = gap₁ ++ gap₂ ∧
      matched ++ left = gap₂ ++ tail ∧ (gap₂ = [] → m.start < m.stop) := by
  obtain ⟨m, hm⟩ := exists_find? hsaves groups offset haccepts
  obtain ⟨gap₁, matched, left, hfinds⟩ := finds_of_find? hsaves hm
  obtain ⟨gap₂, rfl, hrest⟩ := hfinds.exists_middle haccepts
  refine ⟨m, gap₁, gap₂, matched, left, hm, hfinds, rfl, hrest, ?_⟩
  rintro rfl
  refine hfinds.start_lt_stop ?_
  rw [hfinds.start_eq, hrest]
  simpa only [List.append_nil, List.nil_append] using hreaches

/-- The rounds it takes at most to find the matches in the rest of a text: two for each character,
    as there may be an empty match before it, and one for an empty match at the place itself, unless
    the match before ends there. -/
def roundsLeft (offset : ℕ) (last : Option ℕ) (rest : List Char) : ℕ :=
  2 * rest.length + if last = some offset then 0 else 1

/-- Passing over an empty match takes a round. -/
theorem roundsLeft_of_touching (c : Char) (rest : List Char) {last : Option ℕ}
    (hlast : last = some offset) :
    roundsLeft (offset + c.utf8Size) last rest < roundsLeft offset last (c :: rest) := by
  rw [roundsLeft, roundsLeft, if_pos hlast, List.length_cons]
  split_ifs <;> omega

/-- A match takes a round, an empty one where the one before does not end. -/
theorem roundsLeft_of_lying {gap matched : List Char} {last : Option ℕ} (stop : ℕ)
    (left : List Char) (hnew : gap = [] → matched = [] → last ≠ some offset) :
    roundsLeft stop (some stop) left < roundsLeft offset last (gap ++ (matched ++ left)) := by
  rw [roundsLeft, roundsLeft, if_pos rfl]
  simp only [List.length_append]
  by_cases hempty : gap = [] ∧ matched = []
  · rw [if_neg (hnew hempty.1 hempty.2)]
    omega
  · have hpos : 0 < gap.length + matched.length := by
      rw [← List.length_append]
      exact List.length_pos_iff.2 (by simpa using hempty)
    omega

/-- Of the matches that are found one by one, one reaches over a place if the way that enters there
    comes to accepting, and reaches beyond it. -/
theorem exists_mem_findFrom (hsaves : p.SavesGroups) (done : List Char) {gap tail : List Char}
    {last : Option ℕ}
    (haccepts : p.AcceptsFrom p.start ⟨(done ++ gap).getLast?, tail⟩)
    (hreaches : p.ReachesOn (Text.size (done ++ gap)) (done ++ gap).getLast? tail)
    (htail : tail ≠ []) (hlast : ∀ stop ∈ last, stop ≤ Text.size done)
    (hfuel : roundsLeft (Text.size done) last (gap ++ tail) ≤ fuel) :
    ∃ m ∈ findFrom p groups fuel (Text.size done) done.getLast? last (gap ++ tail),
      m.start ≤ Text.size (done ++ gap) ∧ Text.size (done ++ gap) < m.stop := by
  induction fuel generalizing done gap last with
  | zero =>
    have hpos := List.length_pos_iff.2 htail
    rw [roundsLeft, List.length_append] at hfuel
    omega
  | succ fuel ih =>
    obtain ⟨m, gap₁, gap₂, matched, left, hm, hfinds, rfl, hrest, hbeyond⟩ :=
      exists_finds hsaves groups (Text.size done) (by rwa [← List.getLast?_append])
        (by rwa [← List.getLast?_append, ← Text.size_append])
    have hstart := hfinds.start_eq
    have hstop := hfinds.stop_eq
    by_cases htouch : m.start = m.stop ∧ last = some m.stop
    · -- An empty match that touches the one before is passed over, with one character.
      have hle := hlast _ htouch.2
      obtain rfl : gap₁ = [] := Text.eq_nil_of_size_eq_zero (by omega)
      obtain ⟨c, gap, rfl⟩ := List.exists_cons_of_ne_nil fun h => (hbeyond h).ne htouch.1
      have hnow : last = some (Text.size done) := htouch.2.trans (congrArg some (by omega))
      have happend : done ++ ([] ++ c :: gap) = done ++ [c] ++ gap := by simp
      have hsize : Text.size (done ++ [c]) = Text.size done + c.utf8Size := by
        simp [Text.size_append, Text.size]
      rw [happend] at haccepts hreaches ⊢
      have hnext := ih _ haccepts hreaches
        (fun stop (h : stop ∈ last) => by have := hlast stop h; omega) (by
          have hround := roundsLeft_of_touching c (gap ++ tail) hnow
          rw [hsize]
          exact Nat.le_of_lt_succ (hround.trans_le hfuel))
      rw [hsize, List.getLast?_append, List.getLast?_singleton, Option.some_or] at hnext
      rw [List.nil_append, List.cons_append] at hm ⊢
      rw [findFrom_of_touching hm htouch.1 htouch.2]
      exact hnext
    · rw [hfinds.rest_eq] at hm hfuel ⊢
      rw [findFrom_of_lying hm htouch hstart hstop]
      by_cases hlt : Text.size (done ++ (gap₁ ++ gap₂)) < m.stop
      · refine ⟨m, List.mem_cons_self, ?_, hlt⟩
        simp only [Text.size_append] at *
        omega
      · -- It ends at the place or before, and the search goes on from its end.
        obtain ⟨gap, rfl, rfl⟩ := Text.exists_middle hrest (by
          simp only [Text.size_append] at hlt
          omega)
        have happend : done ++ (gap₁ ++ (matched ++ gap)) = done ++ (gap₁ ++ matched) ++ gap := by
          simp
        have hsize : Text.size (done ++ (gap₁ ++ matched)) = m.stop := by
          simp only [Text.size_append]
          omega
        have hnew : gap₁ = [] → matched = [] → last ≠ some (Text.size done) := by
          rintro rfl rfl hnow
          rw [Text.size, Nat.add_zero] at hstart hstop
          exact htouch ⟨hstop.symm, by rw [hstop, hstart, hnow]⟩
        have hround := roundsLeft_of_lying m.stop (gap ++ tail) hnew
        rw [happend] at haccepts hreaches ⊢
        obtain ⟨found, hfound, hspan⟩ := ih _ haccepts hreaches
          (fun stop (h : stop ∈ some m.stop) => by rw [hsize, ← Option.some.inj h]) (by
            rw [hsize]
            exact Nat.le_of_lt_succ (hround.trans_le hfuel))
        rw [hsize, List.getLast?_append] at hfound
        exact ⟨found, List.mem_cons_of_mem _ hfound, hspan⟩

/-- Where a match has been found, a way that enters reaches beyond its place, here and wherever the
    text of the match stands between the same two characters. -/
theorem reachesOn_of_finds {x post post' : List Char} (hx : x ≠ [])
    (hafter : post.head? = post'.head?) {gap matched left : List Char}
    (hfinds : p.Finds offset before rest m gap matched left) (hrest : matched ++ left = x ++ post)
    (hstop : m.stop = m.start + Text.size x) (offset' : ℕ) :
    p.AcceptsFrom p.start ⟨gap.getLast?.or before, x ++ post'⟩ ∧
      p.ReachesOn offset' (gap.getLast?.or before) (x ++ post') := by
  obtain ⟨slots, hslots, hon⟩ := hfinds.searchOn_eq
  have hfresh : ∀ offset, (p.entrant offset).slots.get? 1 = none := fun offset =>
    (Slots.get?_put #[] 0 offset 1).trans (if_neg Nat.one_ne_zero)
  rw [hrest] at hon
  rw [hstop] at hslots
  have hways : [p.entrant m.start].map (·.place) = [p.entrant offset'].map (·.place) := rfl
  obtain ⟨slots', read, left', hsearch, -, hend⟩ :=
    exists_stop_of_searchOn offset' (p.entrant offset').slots hafter hways
      (by simp [hfresh m.start]) (hon (some (p.entrant m.start).slots)) hslots
  -- Were the way dead here, the search would keep what it starts with, which has no end.
  have haccepts : p.AcceptsFrom p.start ⟨gap.getLast?.or before, x ++ post'⟩ := by
    by_contra hdead
    have hnone : liveWays (p.live ⟨gap.getLast?.or before, x ++ post'⟩) [p.entrant offset'] = [] :=
      liveWays_cons_of_dead (live_eq_false_iff.2 hdead)
    have heq := Option.some.inj (hsearch.symm.trans (searchOn_of_dead hnone))
    rw [heq, hfresh] at hend
    cases hend
  have hlive : (liveWays (p.live ⟨gap.getLast?.or before, x ++ post'⟩)
      [p.entrant offset']).head? = some (p.entrant offset') := by
    rw [liveWays_cons_of_live (live_iff.2 haccepts)]
    rfl
  refine ⟨haccepts, slots', _, hend, ?_, fun best => (searchOn_eq best _ hlive hlive).trans hsearch⟩
  have hpos : 0 < Text.size x := by
    by_contra hzero
    exact hx (Text.eq_nil_of_size_eq_zero (by omega))
  rw [Text.size_append]
  omega

end Program

/-- Wherever the text of a match stands, between the same two characters, something is found that
    reaches over its start. -/
theorem exists_mem_findAll {r : Regex} (hsaves : r.program.SavesGroups)
    {pre x post pre' post' : List Char} (hx : x ≠ []) (hbefore : pre.getLast? = pre'.getLast?)
    (hafter : post.head? = post'.head?) {m : Match} (hm : m ∈ r.findAll (pre ++ (x ++ post)))
    (hstart : m.start = Text.size pre) (hstop : m.stop = Text.size pre + Text.size x) :
    ∃ m' ∈ r.findAll (pre' ++ (x ++ post')),
      m'.start ≤ Text.size pre' ∧ Text.size pre' < m'.stop := by
  obtain ⟨done, rest, htext, hfind⟩ := Program.exists_find?_of_mem_findFrom [] hm rfl
  obtain ⟨gap, matched, left, hfinds⟩ := Program.finds_of_find? hsaves hfind
  -- The place of the match is that of its text.
  have hsize : Text.size (done ++ gap) = Text.size pre := by
    rw [Text.size_append, ← hstart, hfinds.start_eq]
  have htext' : pre ++ (x ++ post) = done ++ gap ++ (matched ++ left) := by
    rw [List.append_assoc, ← hfinds.rest_eq]
    exact htext
  obtain ⟨mid, hmid, hrest⟩ := Text.exists_middle htext' hsize.ge
  obtain rfl : mid = [] := by
    refine Text.eq_nil_of_size_eq_zero ?_
    rw [hmid, Text.size_append] at hsize
    omega
  rw [List.append_nil] at hmid
  rw [List.nil_append] at hrest
  obtain ⟨haccepts, hreaches⟩ := Program.reachesOn_of_finds hx hafter hfinds hrest.symm
    (by rw [hstop, hstart]) (Text.size pre')
  rw [← List.getLast?_append, hmid, hbefore] at haccepts hreaches
  exact Program.exists_mem_findFrom hsaves [] haccepts hreaches
    (by simp [hx]) (by simp) (by simp [Program.roundsLeft])

end Regex

end Autofix
