import Autofix.Proofs.Fixing
import Mathlib.Data.List.Perm.Subperm

/-!
# Which fixes are selected

Fixes are accepted greedily, later starts first. Where none of them is an insertion, this is the
best that one pass can do: no selection of fixes that do not overlap is larger (`apply_isLargest`).
For what is accepted next, only the start of the last accepted fix matters: among fixes that start
no later, those that overlap it all hold its first byte, so that a selection has one of them at most
(`length_filter_overlaps_le`).

Where the given fixes do not overlap in the first place and come from left to right, all of them are
applied (`exists_applied_of_ascending`).

The order in which the diagnostics are given decides between fixes of the same start only. Where the
starts differ, the candidates are the same in every order (`candidates_eq_of_perm`), and with them
all that fixing comes to (`apply_eq_of_perm`).
-/

namespace Autofix

/-! ### Spans that take something away -/

theorem Span.overlaps_comm (s t : Span) : s.overlaps t = t.overlaps s := by
  rw [overlaps, overlaps, Bool.and_comm t.isEmpty, Bool.and_comm (decide (t.start < s.stop)),
    decide_eq_decide.2 (eq_comm : s.start = t.start ↔ t.start = s.start)]

/-- A span that is not empty overlaps another one exactly if each starts before the other ends. -/
theorem Span.overlaps_iff {s t : Span} (hs : ¬s.isEmpty) :
    s.overlaps t ↔ s.start < t.stop ∧ t.start < s.stop := by
  rw [overlaps, Bool.eq_false_of_not_eq_true hs, Bool.false_and, if_neg Bool.false_ne_true]
  simp only [Bool.and_eq_true, decide_eq_true_eq]

namespace Fixing

variable {content : List Char} {text : String} {ds ds' : List Diagnostic}

/-- No two of some fixes overlap. -/
def NonOverlapping (fs : List Fix) : Prop :=
  fs.Pairwise fun f g => f.span.overlaps g.span = false

instance (fs : List Fix) : Decidable (NonOverlapping fs) :=
  inferInstanceAs (Decidable (fs.Pairwise _))

theorem NonOverlapping.of_perm {fs gs : List Fix} (h : NonOverlapping fs) (hperm : fs.Perm gs) :
    NonOverlapping gs :=
  (hperm.pairwise_iff fun {f g} hfg => (g.span.overlaps_comm f.span).trans hfg).1 h

/-! ### The greedy choice -/

/-- Of fixes that do not overlap and start no later than a span, one at most overlaps it: all that
    do hold the first byte of the span. -/
theorem length_filter_overlaps_le {s : Span} {fs : List Fix} (hs : ¬s.isEmpty)
    (hne : ∀ f ∈ fs, ¬f.span.isEmpty) (hle : ∀ f ∈ fs, f.span.start ≤ s.start)
    (hapart : NonOverlapping fs) :
    (fs.filter fun f => s.overlaps f.span).length ≤ 1 := by
  have hapart' := hapart.filter fun f => s.overlaps f.span
  have hmem : ∀ f ∈ fs.filter fun f => s.overlaps f.span,
      ¬f.span.isEmpty ∧ f.span.start ≤ s.start ∧ s.start < f.span.stop := by
    intro f hf
    obtain ⟨hf, hover⟩ := List.mem_filter.1 hf
    exact ⟨hne f hf, hle f hf, ((Span.overlaps_iff hs).1 hover).1⟩
  generalize fs.filter (fun f => s.overlaps f.span) = overlapping at hapart' hmem
  match overlapping with
  | [] => exact Nat.zero_le 1
  | [_] => exact Nat.le_refl 1
  | f :: g :: rest =>
    obtain ⟨hf, hfs, hsf⟩ := hmem f (by simp)
    obtain ⟨-, hgs, hsg⟩ := hmem g (by simp)
    have hover : f.span.overlaps g.span := (Span.overlaps_iff hf).2 ⟨by omega, by omega⟩
    rw [(List.pairwise_cons.1 hapart').1 g List.mem_cons_self] at hover
    exact absurd hover Bool.false_ne_true

/-- To make room for a fix, of selected ones that start no later one at most has to go. -/
theorem length_le_length_filter_succ {c : Fixable} {selection : List Fixable}
    (hc : ¬c.fix.span.isEmpty) (hne : ∀ d ∈ selection, ¬d.fix.span.isEmpty)
    (hle : ∀ d ∈ selection, d.fix.span.start ≤ c.fix.span.start)
    (hapart : NonOverlapping (selection.map (·.fix))) :
    selection.length ≤
      (selection.filter fun d => !c.fix.span.overlaps d.fix.span).length + 1 := by
  have hgone := length_filter_overlaps_le hc (List.forall_mem_map.2 hne)
    (List.forall_mem_map.2 hle) hapart
  rw [List.filter_map, List.length_map] at hgone
  have hsplit := List.length_eq_length_filter_add (l := selection)
    fun d => c.fix.span.overlaps d.fix.span
  simp only [Function.comp_def] at hgone
  omega

/-- After a fix has been accepted, no more can be selected from the later candidates than is
    accepted, if nothing that is selected overlaps that fix. -/
theorem length_le_length_acceptAfter {last? : Option Span} {l selection : List Fixable}
    (hdesc : l.Pairwise fun a b => b.fix.span.start ≤ a.fix.span.start)
    (hne : ∀ c ∈ l, ¬c.fix.span.isEmpty) (hsub : selection.Sublist l)
    (hapart : NonOverlapping (selection.map (·.fix)))
    (hlast : ∀ last ∈ last?, ∀ c ∈ selection, last.overlaps c.fix.span = false) :
    selection.length ≤ (acceptAfter last? l).length := by
  induction l generalizing last? selection with
  | nil => rw [List.sublist_nil.1 hsub]; exact Nat.zero_le _
  | cons c l ih =>
    obtain ⟨hlater, hdesc⟩ := List.pairwise_cons.1 hdesc
    obtain ⟨hc, hne⟩ := List.forall_mem_cons.1 hne
    rw [acceptAfter]
    split_ifs with hskip
    · -- What overlaps the last fix has not been selected.
      refine ih hdesc hne ?_ hapart hlast
      cases hsub with
      | cons _ hsub => exact hsub
      | cons_cons _ hsub =>
        obtain ⟨last, rfl, hover⟩ := (Option.any_eq_true _ _).1 hskip
        rw [hlast last rfl c List.mem_cons_self] at hover
        exact absurd hover Bool.false_ne_true
    · rw [List.length_cons]
      cases hsub with
      | cons_cons _ hsub =>
        -- It has been selected itself, and nothing else that is selected overlaps it.
        obtain ⟨hfirst, hapart⟩ := List.pairwise_cons.1 hapart
        refine Nat.succ_le_succ (ih hdesc hne hsub hapart ?_)
        rintro _ ⟨⟩ d hd
        exact hfirst d.fix (List.mem_map_of_mem hd)
      | @cons _ _ _ hsub =>
        -- It takes the place of what overlaps it in the selection, which is one fix at most.
        have hkept : (selection.filter fun d => !c.fix.span.overlaps d.fix.span).length ≤
            (acceptAfter (some c.fix.span) l).length := by
          refine ih hdesc hne (List.filter_sublist.trans hsub)
            (hapart.sublist (List.filter_sublist.map _)) ?_
          rintro _ ⟨⟩ d hd
          simpa using (List.mem_filter.1 hd).2
        have hgone := length_le_length_filter_succ hc (fun d hd => hne d (hsub.subset hd))
          (fun d hd => hlater d (hsub.subset hd)) hapart
        exact hgone.trans (Nat.succ_le_succ hkept)

/-- The fixes that are accepted fit the text, and do not overlap. -/
theorem fix_accept_subperm (content : List Char) (ds : List Diagnostic) :
    ((accept (candidates content ds)).map (·.fix)).Subperm (fitting content ds) :=
  ((accept_sublist _).map _).subperm.trans (map_fix_candidates_perm content ds).subperm

/-- Fixes out of those that fit a text, none of which overlaps another one. -/
structure Selects (content : List Char) (ds : List Diagnostic) (fs : List Fix) : Prop where
  subperm : fs.Subperm (fitting content ds)
  nonOverlapping : NonOverlapping fs

/-- Where nothing that fits is an insertion, no selection of fixes that do not overlap is larger
    than the accepted one. -/
theorem Selects.length_le (h : ∀ f ∈ fitting content ds, ¬f.span.isEmpty) {fs : List Fix}
    (hfs : Selects content ds fs) : fs.length ≤ (accept (candidates content ds)).length := by
  have hperm := map_fix_candidates_perm content ds
  -- Put into the order of the candidates, the selection is a part of them.
  obtain ⟨fs', hfs', hsub⟩ := hfs.subperm.trans hperm.symm.subperm
  obtain ⟨selection, hselection, rfl⟩ := List.sublist_map_iff.1 hsub
  rw [← hfs'.length_eq, List.length_map]
  refine length_le_length_acceptAfter (pairwise_candidates content ds) (fun c hc => ?_) hselection
    (hfs.nonOverlapping.of_perm hfs'.symm) fun _ hlast => nomatch hlast
  exact h c.fix (hperm.subset (List.mem_map_of_mem hc))

/-- Where nothing that fits is an insertion, the accepted fixes are a selection. -/
theorem selects_accept (h : ∀ f ∈ fitting content ds, ¬f.span.isEmpty) :
    Selects content ds ((accept (candidates content ds)).map (·.fix)) := by
  have hsubperm := fix_accept_subperm content ds
  refine ⟨hsubperm, List.pairwise_map.2 ?_⟩
  have hdisjoint := pairwise_accept_iff.2 (insertionsLast_of_not_isEmpty h)
  refine hdisjoint.imp_of_mem fun {a b} ha _ hle => ?_
  have hne := h a.fix (hsubperm.subset (List.mem_map_of_mem ha))
  rw [Bool.eq_false_iff, Ne, Span.overlaps_iff hne]
  omega

/-- Where nothing that fits is an insertion, fixing comes to a result, and the applied fixes are a
    largest selection: none of them overlaps another one, and no other choice of fixes that do not
    overlap has more. -/
theorem apply_isLargest (h : ∀ f ∈ fitting text.toList ds, ¬f.span.isEmpty) :
    ∃ fixed fs, apply text ds = some fixed ∧ fixed.applied.map (·.fix) = fs.map some ∧
      Selects text.toList ds fs ∧
      ∀ other, Selects text.toList ds other → other.length ≤ fixed.applied.length := by
  obtain ⟨fixed, happly, -, happlied⟩ := exists_isAtOnce (insertionsLast_of_not_isEmpty h)
  set accepted := accept (candidates text.toList ds)
  refine ⟨fixed, (accepted.map (·.fix)).reverse, happly, ?_, ?_, fun other hother => ?_⟩
  · rw [happlied, List.map_reverse, List.map_map, List.map_reverse, List.map_map]
    exact congrArg List.reverse map_fix_applied
  · have hselects := selects_accept h
    exact ⟨(List.reverse_perm _).subperm.trans hselects.subperm,
      hselects.nonOverlapping.of_perm (List.reverse_perm _).symm⟩
  · rw [happlied, List.length_reverse, List.length_map]
    exact hother.length_le h

/-- A finding with a fix for its span. -/
private def rewording (start stop : Nat) (text : String) : Diagnostic where
  path := ⟨"a.ts"⟩
  ruleId := "rule"
  message := "found"
  span := ⟨start, stop⟩
  loc := none
  severity := .error
  fix := some ⟨⟨start, stop⟩, text⟩

/-- Of a chain of fixes, each of which overlaps the next one, every other one is applied; those that
    do not fit do not count. -/
theorem apply_isLargest_chain :
    let ds := [rewording 0 3 "a", rewording 2 5 "b", rewording 4 7 "c", rewording 6 9 "d",
      rewording 8 40 "e"]
    (∀ f ∈ fitting "0123456789".toList ds, ¬f.span.isEmpty) ∧
    ∃ fixed fs, apply "0123456789" ds = some fixed ∧ fixed.applied.map (·.fix) = fs.map some ∧
      Selects "0123456789".toList ds fs ∧
      ∀ other, Selects "0123456789".toList ds other → other.length ≤ fixed.applied.length := by
  intro ds
  have hfitting : fitting "0123456789".toList ds =
      [⟨⟨0, 3⟩, "a"⟩, ⟨⟨2, 5⟩, "b"⟩, ⟨⟨4, 7⟩, "c"⟩, ⟨⟨6, 9⟩, "d"⟩] := by cbv
  have hne : ∀ f ∈ fitting "0123456789".toList ds, ¬f.span.isEmpty := by
    rw [hfitting]
    decide
  exact ⟨hne, apply_isLargest hne⟩

/-! ### Other orders -/

theorem fixables_perm (content : List Char) (h : ds.Perm ds') :
    ((ds.filterMap Diagnostic.fixable?).filter fun c => c.fix.fits content).Perm
      ((ds'.filterMap Diagnostic.fixable?).filter fun c => c.fix.fits content) :=
  (h.filterMap _).filter _

/-- Where no two fixes that fit have the same start, the candidates do not depend on the order in
    which the diagnostics are given. -/
theorem candidates_eq_of_perm (h : ds.Perm ds')
    (hstarts : ((fitting content ds).map (·.span.start)).Nodup) :
    candidates content ds = candidates content ds' := by
  rw [← map_fix_filterMap_fixable?, List.map_map] at hstarts
  have hperm : (candidates content ds).Perm (candidates content ds') :=
    (List.mergeSort_perm _ _).trans ((fixables_perm content h).trans (List.mergeSort_perm _ _).symm)
  have hstarts' : ((candidates content ds).map (·.fix.span.start)).Nodup :=
    ((List.mergeSort_perm _ _).map _).nodup_iff.2 hstarts
  refine hperm.eq_of_pairwise (fun a b ha hb hba hab => ?_) (pairwise_candidates content ds)
    (pairwise_candidates content ds')
  exact List.inj_on_of_nodup_map hstarts' ha (hperm.mem_iff.2 hb) (Nat.le_antisymm hab hba)

theorem insertionsLast_of_nodup {fs : List Fix} (h : (fs.map (·.span.start)).Nodup) :
    InsertionsLast fs :=
  (List.pairwise_map.1 h).imp fun hne _ heq => absurd heq.symm hne

/-- Where no two fixes that fit have the same start, fixing comes to the same text and the same
    applied diagnostics for every order of the diagnostics. -/
theorem apply_eq_of_perm (h : ds.Perm ds')
    (hstarts : ((fitting text.toList ds).map (·.span.start)).Nodup) :
    ∃ fixed, apply text ds = some fixed ∧ apply text ds' = some fixed := by
  obtain ⟨fixed, happly, -⟩ := exists_isAtOnce (insertionsLast_of_nodup hstarts)
  refine ⟨fixed, happly, ?_⟩
  rw [← happly, apply, apply, candidates_eq_of_perm h hstarts]

/-- An insertion, two fixes of which one is left out, and one that does not fit, the other way
    around. -/
theorem apply_eq_of_perm_reversed :
    let ds := [rewording 4 4 "X", rewording 0 3 "a", rewording 2 3 "b", rewording 2 90 "c"]
    (ds.Perm ds.reverse ∧ ((fitting "012345".toList ds).map (·.span.start)).Nodup) ∧
    ∃ fixed, apply "012345" ds = some fixed ∧ apply "012345" ds.reverse = some fixed := by
  intro ds
  have hperm : ds.Perm ds.reverse := (List.reverse_perm ds).symm
  have hfitting : fitting "012345".toList ds =
      [⟨⟨4, 4⟩, "X"⟩, ⟨⟨0, 3⟩, "a"⟩, ⟨⟨2, 3⟩, "b"⟩] := by cbv
  have hstarts : ((fitting "012345".toList ds).map (·.span.start)).Nodup := by
    rw [hfitting]
    decide
  exact ⟨⟨hperm, hstarts⟩, apply_eq_of_perm hperm hstarts⟩

/-! ### Nothing to select -/

/-- Where nothing overlaps, nothing is left out. -/
theorem acceptAfter_eq_self (last? : Option Span) {l : List Fixable}
    (h : l.Pairwise fun a b => a.fix.span.overlaps b.fix.span = false)
    (hlast : ∀ last ∈ last?, ∀ c ∈ l, last.overlaps c.fix.span = false) :
    acceptAfter last? l = l ∧ skippedAfter last? l = [] := by
  induction l generalizing last? with
  | nil => exact ⟨rfl, rfl⟩
  | cons c l ih =>
    obtain ⟨hc, hl⟩ := List.pairwise_cons.1 h
    have hkeep : ¬last?.any fun last => last.overlaps c.fix.span := by
      rw [Option.any_eq_true]
      rintro ⟨last, hmem, hover⟩
      rw [hlast last hmem c List.mem_cons_self] at hover
      exact Bool.false_ne_true hover
    obtain ⟨haccept, hskipped⟩ := ih (some c.fix.span) hl (by rintro _ ⟨⟩; exact hc)
    rw [acceptAfter, skippedAfter, if_neg hkeep, if_neg hkeep, haccept]
    exact ⟨rfl, hskipped⟩

/-- Where the starts of the fixes that fit ascend, the candidates are those fixes the other way
    around. -/
theorem candidates_of_ascending
    (h : (fitting content ds).Pairwise fun f g => f.span.start < g.span.start) :
    candidates content ds =
      ((ds.filterMap Diagnostic.fixable?).filter fun c => c.fix.fits content).reverse := by
  have hstarts : ((fitting content ds).map (·.span.start)).Nodup :=
    List.pairwise_map.2 (h.imp Nat.ne_of_lt)
  rw [← map_fix_filterMap_fixable?, List.pairwise_map] at h
  rw [candidates_eq_of_perm (List.reverse_perm ds).symm hstarts, candidates,
    List.filterMap_reverse, List.filter_reverse]
  refine List.mergeSort_of_pairwise (List.pairwise_reverse.2 (h.imp fun hlt => ?_))
  exact decide_eq_true (Nat.le_of_lt hlt)

theorem map_diagnostic_filterMap_fixable? (content : List Char) (ds : List Diagnostic) :
    ((ds.filterMap Diagnostic.fixable?).filter fun c => c.fix.fits content).map (·.diagnostic) =
      ds.filter fun d => d.fix.any (·.fits content) := by
  induction ds with
  | nil => rfl
  | cons d ds ih =>
    cases hfix : d.fix with
    | none => simp [Diagnostic.fixable?, hfix, ih]
    | some f =>
      cases hfits : f.fits content <;> simp [Diagnostic.fixable?, hfix, hfits, ih]

/-- Fixes that come from left to right, each taking something away before the next one starts, are
    all applied. -/
theorem exists_applied_of_ascending (hne : ∀ f ∈ fitting text.toList ds, ¬f.span.isEmpty)
    (h : (fitting text.toList ds).Pairwise fun f g => f.span.stop ≤ g.span.start) :
    ∃ fixed, apply text ds = some fixed ∧ IsAtOnce text fixed ∧
      fixed.applied = ds.filter (fun d => d.fix.any (·.fits text.toList)) ∧
      skippedAfter none (candidates text.toList ds) = [] := by
  obtain ⟨fixed, happly, hfixed, happlied⟩ := exists_isAtOnce (insertionsLast_of_not_isEmpty hne)
  have hlt : ∀ f ∈ fitting text.toList ds, f.span.start < f.span.stop := by
    intro f hf
    obtain ⟨_, _, _, -, hstart, hstop⟩ := Fix.fits_iff.1 (List.of_mem_filter hf)
    have hdiffer : f.span.start ≠ f.span.stop := by simpa [Span.isEmpty] using hne f hf
    omega
  have hcandidates := candidates_of_ascending (h.imp_of_mem fun hf _ hle => (hlt _ hf).trans_le hle)
  have hapart : (candidates text.toList ds).Pairwise
      fun a b => a.fix.span.overlaps b.fix.span = false := by
    rw [hcandidates, List.pairwise_reverse]
    have h' := h.imp_of_mem (S := fun f g => g.span.overlaps f.span = false) fun hf hg hle => by
      rw [Bool.eq_false_iff, Ne, Span.overlaps_iff (hne _ hg)]
      omega
    rwa [← map_fix_filterMap_fixable?, List.pairwise_map] at h'
  obtain ⟨haccept, hskipped⟩ := acceptAfter_eq_self none hapart (by simp)
  refine ⟨fixed, happly, hfixed, ?_, hskipped⟩
  rw [happlied, accept, haccept, hcandidates, List.map_reverse, List.reverse_reverse]
  exact map_diagnostic_filterMap_fixable? text.toList ds

end Fixing

end Autofix
