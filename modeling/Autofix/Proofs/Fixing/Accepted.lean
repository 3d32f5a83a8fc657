import Autofix.Fixing
import Mathlib.Data.List.Chain

/-!
# Accepted fixes

Which fixes are accepted, and in which order. A candidate is compared with the fix accepted last
only. That it ends before all the accepted ones follows from the descending order of the starts,
with one exception: a span that is not empty does not overlap an insertion at its start, and is
accepted after it.

* `mem_candidates`, `pairwise_candidates` and `filter_candidates`: the candidates are the fixes that
  fit, in descending order of their starts, and in their given order where the starts agree;
* `isChain_accept`: no accepted fix overlaps the one accepted before it;
* `mem_accept_or_overlaps`: what is not accepted overlaps something accepted;
* `pairwise_accept_iff`: every accepted fix ends before the ones accepted before it if and only if
  no insertion stands before a non-empty fix with the same start (`InsertionsLast`).
-/

namespace Autofix

/-- Of two spans that do not overlap, one that starts no later than the other ends before it, unless
    the other is an insertion at its start. -/
theorem Span.stop_le_or_insertion {s t : Span} (ht : t.start ≤ t.stop) (hst : t.start ≤ s.start)
    (hs : s.start ≤ s.stop) (h : s.overlaps t = false) :
    t.stop ≤ s.start ∨ (s.isEmpty ∧ ¬t.isEmpty ∧ t.start = s.start) := by
  by_cases hs' : s.start = s.stop <;> by_cases ht' : t.start = t.stop <;>
    simp [overlaps, isEmpty, hs', ht'] at h ⊢ <;> omega

/-- A span overlaps an insertion at its start exactly if it is an insertion, too. -/
theorem Span.overlaps_of_insertion {s t : Span} (hs : s.isEmpty) (hst : t.start = s.start) :
    s.overlaps t = t.isEmpty := by
  simp only [isEmpty, decide_eq_true_eq] at hs
  by_cases ht : t.start = t.stop
  · simp [overlaps, isEmpty, hs, ht]
    omega
  · simp [overlaps, isEmpty, hs, hst]

/-- An insertion is only overlapped, among the spans that start no earlier, by an insertion. -/
theorem Span.isEmpty_of_overlaps_insertion {s t : Span} (h : s.overlaps t) (ht : t.isEmpty)
    (hst : t.start ≤ s.start) : s.isEmpty ∧ t.start = s.start := by
  simp only [isEmpty, decide_eq_true_eq] at ht
  by_cases hs' : s.start = s.stop <;> simp [overlaps, isEmpty, hs', ht] at h ⊢ <;> omega

namespace Fixing

/-- No insertion stands before a fix that takes something away at the same offset. -/
def InsertionsLast (fs : List Fix) : Prop :=
  fs.Pairwise fun f g => f.span.isEmpty → g.span.start = f.span.start → g.span.isEmpty

instance (fs : List Fix) : Decidable (InsertionsLast fs) :=
  inferInstanceAs (Decidable (fs.Pairwise _))

/-- The fixes of diagnostics that fit a text, in the order of the diagnostics. -/
def fitting (content : List Char) (ds : List Diagnostic) : List Fix :=
  (ds.filterMap (·.fix)).filter (·.fits content)

variable {content : List Char} {ds : List Diagnostic}

/-! ### Candidates -/

theorem mem_candidates {c : Fixable} : c ∈ candidates content ds ↔
    c.diagnostic ∈ ds ∧ c.diagnostic.fix = some c.fix ∧ c.fix.fits content := by
  simp only [candidates, List.mem_mergeSort, List.mem_filter, List.mem_filterMap,
    Diagnostic.fixable?_eq_some_iff]
  constructor
  · rintro ⟨⟨d, hd, rfl, hfix⟩, hfits⟩
    exact ⟨hd, hfix, hfits⟩
  · rintro ⟨hd, hfix, hfits⟩
    exact ⟨⟨_, hd, rfl, hfix⟩, hfits⟩

/-- The fix of a candidate does not end before its start. -/
theorem start_le_stop_of_mem_candidates {c : Fixable} (hc : c ∈ candidates content ds) :
    c.fix.span.start ≤ c.fix.span.stop := by
  obtain ⟨_, _, _, _, hstart, hstop⟩ := Fix.fits_iff.1 (mem_candidates.1 hc).2.2
  omega

private theorem later_trans (a b c : Fixable)
    (hab : decide (b.fix.span.start ≤ a.fix.span.start) = true)
    (hbc : decide (c.fix.span.start ≤ b.fix.span.start) = true) :
    decide (c.fix.span.start ≤ a.fix.span.start) = true := by
  simp only [decide_eq_true_eq] at *
  omega

private theorem later_total (a b : Fixable) :
    (decide (b.fix.span.start ≤ a.fix.span.start) ||
      decide (a.fix.span.start ≤ b.fix.span.start)) = true := by
  simp only [Bool.or_eq_true, decide_eq_true_eq]
  omega

/-- Candidates with later starts come first. -/
theorem pairwise_candidates (content : List Char) (ds : List Diagnostic) :
    (candidates content ds).Pairwise fun a b => b.fix.span.start ≤ a.fix.span.start :=
  (List.pairwise_mergeSort later_trans later_total _).imp of_decide_eq_true

/-- Candidates with the same start keep the order of the diagnostics. -/
theorem filter_candidates (start : Nat) :
    (candidates content ds).filter (fun c => c.fix.span.start = start) =
      ((ds.filterMap Diagnostic.fixable?).filter fun c => c.fix.fits content).filter
        fun c => c.fix.span.start = start := by
  set given := (ds.filterMap Diagnostic.fixable?).filter fun c => c.fix.fits content
  have perm : (candidates content ds).Perm given := List.mergeSort_perm _ _
  -- Those with one start are in descending order, hence still in their order after sorting.
  have desc : (given.filter fun c => c.fix.span.start = start).Pairwise
      fun a b => decide (b.fix.span.start ≤ a.fix.span.start) = true := by
    refine List.pairwise_iff_forall_sublist.2 fun {a b} hab => ?_
    have ha := List.of_mem_filter (hab.subset (by simp : a ∈ [a, b]))
    have hb := List.of_mem_filter (hab.subset (by simp : b ∈ [a, b]))
    simp only [decide_eq_true_eq] at ha hb ⊢
    omega
  have sub := (List.sublist_mergeSort later_trans later_total desc List.filter_sublist).filter
    fun c => decide (c.fix.span.start = start)
  simp only [List.filter_filter, Bool.and_self] at sub
  exact (sub.eq_of_length (perm.filter _).length_eq.symm).symm

/-! ### Acceptance -/

theorem acceptAfter_sublist (last? : Option Span) (l : List Fixable) :
    (acceptAfter last? l).Sublist l := by
  induction l generalizing last? with
  | nil => exact .slnil
  | cons c l ih =>
    rw [acceptAfter]
    split
    · exact (ih last?).cons c
    · exact (ih _).cons_cons c

theorem accept_sublist (l : List Fixable) : (accept l).Sublist l := acceptAfter_sublist none l

/-- Every accepted fix has passed the comparison with the one accepted before it. -/
theorem isChain_acceptAfter (last? : Option Span) (l : List Fixable) :
    (last?.toList ++ (acceptAfter last? l).map (·.fix.span)).IsChain
      fun s t => s.overlaps t = false := by
  induction l generalizing last? with
  | nil => cases last? <;> simp [acceptAfter]
  | cons c l ih =>
    rw [acceptAfter]
    split_ifs with h
    · exact ih last?
    · cases last? with
      | none => simpa using ih (some c.fix.span)
      | some last =>
        refine List.isChain_cons_cons.2 ⟨by simpa using h, ?_⟩
        simpa using ih (some c.fix.span)

/-- No accepted fix overlaps the one accepted before it. -/
theorem isChain_accept (l : List Fixable) :
    (accept l).IsChain fun a b => a.fix.span.overlaps b.fix.span = false := by
  simpa [accept, List.isChain_map] using isChain_acceptAfter none l

theorem pair_sublist_candidates {a b : Fixable} {before after : List Fixable}
    (eq : accept (candidates content ds) = before ++ a :: b :: after) :
    [a, b].Sublist (candidates content ds) := by
  have sub : [a, b].Sublist (before ++ a :: b :: after) :=
    (List.sublist_append_left [a, b] after).trans (List.sublist_append_right before _)
  exact (eq ▸ sub).trans (accept_sublist _)

/-- Every accepted fix ends before the one accepted before it, unless that is an insertion at its
    start. -/
theorem isChain_accept_candidates (content : List Char) (ds : List Diagnostic) :
    (accept (candidates content ds)).IsChain fun a b =>
      b.fix.span.stop ≤ a.fix.span.start ∨
        (a.fix.span.isEmpty ∧ ¬b.fix.span.isEmpty ∧ b.fix.span.start = a.fix.span.start) := by
  refine List.isChain_iff_forall_rel_of_append_cons_cons.2 fun a b before after eq => ?_
  have apart := List.isChain_iff_forall_rel_of_append_cons_cons.1 (isChain_accept _) eq
  have sub := pair_sublist_candidates eq
  exact Span.stop_le_or_insertion (start_le_stop_of_mem_candidates (sub.subset (by simp)))
    (List.pairwise_iff_forall_sublist.1 (pairwise_candidates content ds) sub)
    (start_le_stop_of_mem_candidates (sub.subset (by simp))) apart

/-- Every fix is accepted, or overlaps an accepted one or the one that was accepted before. -/
theorem mem_acceptAfter_or_overlaps (last? : Option Span) {l : List Fixable} {c : Fixable}
    (hc : c ∈ l) : c ∈ acceptAfter last? l ∨ (∃ last ∈ last?, last.overlaps c.fix.span) ∨
      ∃ a ∈ acceptAfter last? l, a.fix.span.overlaps c.fix.span := by
  induction l generalizing last? with
  | nil => exact absurd hc List.not_mem_nil
  | cons d l ih =>
    rw [acceptAfter]
    split_ifs with hskip
    · rcases List.mem_cons.1 hc with rfl | hc
      · exact .inr (.inl ((Option.any_eq_true _ _).1 hskip))
      · exact ih last? hc
    · rcases List.mem_cons.1 hc with rfl | hc
      · exact .inl List.mem_cons_self
      · rcases ih (some d.fix.span) hc with hmem | ⟨_, ⟨⟩, hover⟩ | ⟨a, ha, hover⟩
        · exact .inl (List.mem_cons_of_mem _ hmem)
        · exact .inr (.inr ⟨d, List.mem_cons_self, hover⟩)
        · exact .inr (.inr ⟨a, List.mem_cons_of_mem _ ha, hover⟩)

/-- Every fix is accepted or overlaps an accepted one. -/
theorem mem_accept_or_overlaps {l : List Fixable} {c : Fixable} (hc : c ∈ l) :
    c ∈ accept l ∨ ∃ a ∈ accept l, a.fix.span.overlaps c.fix.span := by
  rcases mem_acceptAfter_or_overlaps none hc with h | ⟨_, ⟨⟩, _⟩ | h
  · exact .inl h
  · exact .inr h

/-! ### Insertions -/

theorem insertionsLast_of_not_isEmpty {fs : List Fix} (h : ∀ f ∈ fs, ¬f.span.isEmpty) :
    InsertionsLast fs :=
  List.pairwise_iff_forall_sublist.2 fun sub hf => absurd hf (h _ (sub.subset (by simp)))

/-- Whether insertions come last is seen on the fixes of each start by itself. -/
theorem insertionsLast_iff_filter (fs : List Fix) :
    InsertionsLast fs ↔ ∀ start, InsertionsLast (fs.filter fun f => f.span.start = start) := by
  refine ⟨fun h start => h.filter _, fun h => ?_⟩
  refine List.pairwise_iff_forall_sublist.2 fun {f g} sub hf hfg => ?_
  have sub' := sub.filter fun e => decide (e.span.start = f.span.start)
  simp only [hfg, decide_true, List.filter_cons_of_pos, List.filter_nil] at sub'
  exact List.pairwise_iff_forall_sublist.1 (h f.span.start) sub' hf hfg

theorem map_fix_filterMap_fixable? (content : List Char) (ds : List Diagnostic) :
    ((ds.filterMap Diagnostic.fixable?).filter fun c => c.fix.fits content).map (·.fix) =
      fitting content ds := by
  have hfix : ds.filterMap (·.fix) = (ds.filterMap Diagnostic.fixable?).map (·.fix) := by
    rw [List.map_filterMap]
    congr
    funext d
    cases hd : d.fix <;> simp [Diagnostic.fixable?, hd]
  rw [fitting, hfix, List.filter_map]
  rfl

/-- The fixes of the candidates are those that fit, in another order. -/
theorem map_fix_candidates_perm (content : List Char) (ds : List Diagnostic) :
    ((candidates content ds).map (·.fix)).Perm (fitting content ds) := by
  rw [← map_fix_filterMap_fixable?]
  exact (List.mergeSort_perm _ _).map _

/-- Sorting the fixes changes nothing about insertions. -/
theorem insertionsLast_candidates : InsertionsLast ((candidates content ds).map (·.fix)) ↔
    InsertionsLast (fitting content ds) := by
  rw [insertionsLast_iff_filter, insertionsLast_iff_filter (fitting content ds),
    ← map_fix_filterMap_fixable?]
  refine forall_congr' fun start => ?_
  rw [List.filter_map, List.filter_map]
  exact (congrArg (fun l => InsertionsLast (l.map (·.fix))) (filter_candidates start)).to_iff

/-- After an insertion nothing but insertions with its start is left, if all that is accepted ends
    before it. -/
theorem isEmpty_of_acceptAfter_insertion {last : Span} (hlast : last.isEmpty) {l : List Fixable}
    (hdesc : l.Pairwise fun a b => b.fix.span.start ≤ a.fix.span.start)
    (hvalid : ∀ c ∈ l, c.fix.span.start ≤ c.fix.span.stop)
    (hend : ∀ c ∈ acceptAfter (some last) l, c.fix.span.stop ≤ last.start) :
    ∀ c ∈ l, c.fix.span.start = last.start → c.fix.span.isEmpty := by
  induction l with
  | nil => exact fun _ hc => absurd hc List.not_mem_nil
  | cons c l ih =>
    rw [List.pairwise_cons] at hdesc
    have hc := hvalid c List.mem_cons_self
    rw [acceptAfter] at hend
    split_ifs at hend with hskip
    · intro d hd hstart
      rcases List.mem_cons.1 hd with rfl | hd
      · rw [← Span.overlaps_of_insertion hlast hstart]
        simpa using hskip
      · exact ih hdesc.2 (fun e he => hvalid e (List.mem_cons_of_mem _ he)) hend d hd hstart
    · -- The fix is accepted, so that it ends before the insertion. Had it, or one after it, the
      -- start of the insertion, it would be an insertion itself and not have been accepted.
      intro d hd hstart
      have hcend := hend c List.mem_cons_self
      have hdc : d.fix.span.start ≤ c.fix.span.start := by
        rcases List.mem_cons.1 hd with rfl | hd
        · exact le_rfl
        · exact hdesc.1 d hd
      have hcempty : c.fix.span.isEmpty := by
        simp only [Span.isEmpty, decide_eq_true_eq]
        omega
      rw [← Span.overlaps_of_insertion hlast (by omega)] at hcempty
      exact absurd hcempty (by simpa using hskip)

theorem insertionsLast_of_pairwise_acceptAfter {last? : Option Span} {l : List Fixable}
    (hdesc : l.Pairwise fun a b => b.fix.span.start ≤ a.fix.span.start)
    (hvalid : ∀ c ∈ l, c.fix.span.start ≤ c.fix.span.stop)
    (hlast : ∀ last ∈ last?, (∀ c ∈ l, c.fix.span.start ≤ last.start) ∧
      ∀ c ∈ acceptAfter last? l, c.fix.span.stop ≤ last.start)
    (haccept : (acceptAfter last? l).Pairwise fun a b => b.fix.span.stop ≤ a.fix.span.start) :
    InsertionsLast (l.map (·.fix)) := by
  induction l generalizing last? with
  | nil => exact .nil
  | cons c l ih =>
    rw [List.pairwise_cons] at hdesc
    have hvalid' : ∀ d ∈ l, d.fix.span.start ≤ d.fix.span.stop :=
      fun d hd => hvalid d (List.mem_cons_of_mem _ hd)
    rw [acceptAfter] at hlast haccept
    split_ifs at hlast haccept with hskip
    · -- An insertion is only skipped after an insertion at the same place.
      obtain ⟨last, rfl, hover⟩ := (Option.any_eq_true _ _).1 hskip
      obtain ⟨hle, hend⟩ := hlast last rfl
      refine List.pairwise_cons.2 ⟨fun f hf hc hstart => ?_, ih hdesc.2 hvalid' ?_ haccept⟩
      · obtain ⟨d, hd, rfl⟩ := List.mem_map.1 hf
        obtain ⟨hlast, heq⟩ := Span.isEmpty_of_overlaps_insertion hover hc
          (hle c List.mem_cons_self)
        exact isEmpty_of_acceptAfter_insertion hlast hdesc.2 hvalid' hend d hd (hstart.trans heq)
      · rintro _ ⟨⟩
        exact ⟨fun d hd => hle d (List.mem_cons_of_mem _ hd), hend⟩
    · rw [List.pairwise_cons] at haccept
      refine List.pairwise_cons.2 ⟨fun f hf hc hstart => ?_, ih hdesc.2 hvalid' ?_ haccept.2⟩
      · obtain ⟨d, hd, rfl⟩ := List.mem_map.1 hf
        exact isEmpty_of_acceptAfter_insertion hc hdesc.2 hvalid' haccept.1 d hd hstart
      · rintro _ ⟨⟩
        exact ⟨hdesc.1, haccept.1⟩

/-- Fixes each of which ends before the one before it end before all those before them. -/
theorem pairwise_of_isChain {l : List Fixable}
    (hvalid : ∀ c ∈ l, c.fix.span.start ≤ c.fix.span.stop)
    (h : l.IsChain fun a b => b.fix.span.stop ≤ a.fix.span.start) :
    l.Pairwise fun a b => b.fix.span.stop ≤ a.fix.span.start := by
  let below (a b : Fixable) : Prop :=
    b.fix.span.stop ≤ a.fix.span.start ∧ b.fix.span.start ≤ b.fix.span.stop
  have trans : Trans below below below := ⟨fun hab hbc => ⟨by omega, hbc.2⟩⟩
  have hbelow : l.IsChain below := h.imp_of_mem_imp fun a b _ hb hab => ⟨hab, hvalid b hb⟩
  exact (List.isChain_iff_pairwise.1 hbelow).imp And.left

theorem pairwise_accept_of_isChain
    (h : (accept (candidates content ds)).IsChain fun a b => b.fix.span.stop ≤ a.fix.span.start) :
    (accept (candidates content ds)).Pairwise fun a b => b.fix.span.stop ≤ a.fix.span.start :=
  pairwise_of_isChain
    (fun _ hc => start_le_stop_of_mem_candidates ((accept_sublist _).subset hc)) h

/-- Every accepted fix ends before all those accepted before it, if no insertion is accepted right
    before a fix that takes something away at its start. -/
theorem pairwise_accept_of_forall (h : ∀ before ins c after,
      accept (candidates content ds) = before ++ ins :: c :: after →
      ins.fix.span.isEmpty → c.fix.span.start = ins.fix.span.start → c.fix.span.isEmpty) :
    (accept (candidates content ds)).Pairwise fun a b => b.fix.span.stop ≤ a.fix.span.start := by
  -- Neighbours that are not in order are an insertion and a fix at its start.
  refine pairwise_accept_of_isChain ?_
  refine List.isChain_iff_forall_rel_of_append_cons_cons.2 fun ins c before after eq => ?_
  rcases List.isChain_iff_forall_rel_of_append_cons_cons.1
    (isChain_accept_candidates content ds) eq with hle | ⟨hins, hne, hstart⟩
  · exact hle
  · exact absurd (h before ins c after eq hins hstart) hne

/-- Every accepted fix ends before all those accepted before it exactly if insertions come last
    among the given fixes of their start. -/
theorem pairwise_accept_iff : (accept (candidates content ds)).Pairwise
      (fun a b => b.fix.span.stop ≤ a.fix.span.start) ↔ InsertionsLast (fitting content ds) := by
  rw [← insertionsLast_candidates]
  constructor
  · exact insertionsLast_of_pairwise_acceptAfter (pairwise_candidates content ds)
      (fun _ hc => start_le_stop_of_mem_candidates hc) (by simp)
  · intro h
    refine pairwise_accept_of_forall fun before ins c after eq hins hstart => ?_
    have sub : [ins.fix, c.fix].Sublist ((candidates content ds).map (·.fix)) :=
      (pair_sublist_candidates eq).map Fixable.fix
    exact List.pairwise_iff_forall_sublist.1 h sub hins hstart

end Fixing

end Autofix
