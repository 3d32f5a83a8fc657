import Autofix.Proofs.Fixing.Splice

/-!
# Edges of replacements

Where replaced spans begin and end in the text that comes out. What stands in that text away from
all edges stands, between the same two characters, in one of the replacing texts, or it has been
there before, in a part of the text that has been kept (`exists_source`).
-/

namespace Autofix.Fixing

/-- The offsets at which replacements begin and end in the text that comes out. The part of the text
    from `pos` on goes on at `now` there. -/
def edges (pos now : Nat) : List Fix → List Nat
  | [] => []
  | f :: fs =>
    let start := now + (f.span.start - pos)
    let stop := start + Text.size f.text.toList
    start :: stop :: edges f.span.stop stop fs

variable {before after done gap x post : List Char} {fs : List Fix}

/-- The first of some fixes cuts the text that is left into a part to keep, the part that it takes
    away, and what comes behind. -/
theorem exists_cut {f : Fix} {kept : List Char} (hfit : f.fits (before ++ after))
    (hkept : Text.slice? (before ++ after) (Text.size before) f.span.start = some kept) :
    ∃ gone rest, after = kept ++ (gone ++ rest) ∧ f.span.start = Text.size (before ++ kept) ∧
      f.span.stop = Text.size (before ++ kept ++ gone) := by
  obtain ⟨as, bs, hcut, has, hsize⟩ := Text.slice?_eq_some_iff.1 hkept
  obtain ⟨cs, gone, rest, hcut', hstart, hstop⟩ := Fix.fits_iff.1 hfit
  rw [List.append_assoc] at hcut hcut'
  obtain ⟨rfl, rfl⟩ := Text.append_inj_of_size hcut has.symm
  rw [← List.append_assoc] at hcut'
  obtain ⟨rfl, rfl⟩ := Text.append_inj_of_size hcut' (by rw [Text.size_append, hsize, hstart])
  exact ⟨gone, rest, rfl, hstart.symm, by rw [Text.size_append, hstop]⟩

/-- What ends before the end of a part of a text lies in it, with something behind it. -/
theorem exists_behind {part rest : List Char} (h : part ++ rest = gap ++ (x ++ post))
    (hlt : Text.size gap + Text.size x < Text.size part) :
    ∃ tail, tail ≠ [] ∧ part = gap ++ (x ++ tail) ∧ post = tail ++ rest := by
  rw [← List.append_assoc] at h
  obtain ⟨tail, rfl, rfl⟩ := Text.exists_middle h.symm (by
    rw [Text.size_append]
    exact Nat.le_of_lt hlt)
  refine ⟨tail, ?_, List.append_assoc .., rfl⟩
  rintro rfl
  simp [Text.size_append] at hlt

/-- What starts after the end of a part of a text comes behind it, with something before it. -/
theorem exists_between {part rest : List Char} (h : part ++ rest = gap ++ (x ++ post))
    (hlt : Text.size part < Text.size gap) :
    ∃ gap', gap' ≠ [] ∧ gap = part ++ gap' ∧ rest = gap' ++ (x ++ post) := by
  obtain ⟨gap', rfl, rfl⟩ := Text.exists_middle h (Nat.le_of_lt hlt)
  refine ⟨gap', ?_, rfl, rfl⟩
  rintro rfl
  simp at hlt

/-- The character before a place is kept with the part before the place; only at the start of a text
    is there none. -/
theorem getLast?_append_gap (hdone : gap ≠ [] ∨ (before = [] ∧ done = [])) :
    (before ++ gap).getLast? = (done ++ gap).getLast? := by
  obtain hgap | ⟨rfl, rfl⟩ := hdone
  · rw [List.getLast?_append_of_ne_nil _ hgap, List.getLast?_append_of_ne_nil _ hgap]
  · rfl

/-- Where fixes come one after the other, all of them start behind what the first one starts
    behind. -/
theorem lt_start_of_ascending {f : Fix} {n : Nat} (hlater : ∀ g ∈ fs, f.span.stop ≤ g.span.start)
    (hspan : f.span.start ≤ f.span.stop) (hlt : n < f.span.start) :
    ∀ g ∈ f :: fs, n < g.span.start :=
  List.forall_mem_cons.2 ⟨hlt, fun g hg =>
    Nat.lt_of_lt_of_le hlt (Nat.le_trans hspan (hlater g hg))⟩

/-- What stands in the rest of the text after replacing, away from the edges, from the end of
    `before` on, which has become `done`. -/
theorem exists_source (before done : List Char) (hx : x ≠ [])
    (hfits : ∀ f ∈ fs, f.fits (before ++ after))
    (hascending : fs.Pairwise fun f g => f.span.stop ≤ g.span.start)
    (hsplice : splice? (before ++ after) (Text.size before) fs = some (gap ++ (x ++ post)))
    (hedges : ∀ edge ∈ edges (Text.size before) (Text.size done) fs,
      ¬(Text.size (done ++ gap) ≤ edge ∧ edge ≤ Text.size (done ++ gap) + Text.size x))
    (hdone : gap ≠ [] ∨ (before = [] ∧ done = [])) :
    (∃ f ∈ fs, ∃ pre' post', f.text.toList = pre' ++ (x ++ post') ∧
        pre'.getLast? = (done ++ gap).getLast? ∧ post'.head? = post.head?) ∨
      ∃ pre' post', before ++ after = pre' ++ (x ++ post') ∧
        pre'.getLast? = (done ++ gap).getLast? ∧ post'.head? = post.head? ∧
        Text.size before ≤ Text.size pre' ∧
        ∀ f ∈ fs, f.span.start ≤ Text.size pre' → f.span.stop ≤ Text.size pre' := by
  have hpos : 0 < Text.size x :=
    Nat.pos_of_ne_zero fun hzero => hx (Text.eq_nil_of_size_eq_zero hzero)
  induction fs generalizing before after done gap with
  | nil =>
    rw [splice?, Text.slice?_end, Option.some.injEq] at hsplice
    subst hsplice
    exact .inr ⟨before ++ gap, post, by simp, getLast?_append_gap hdone, rfl,
      by simp [Text.size_append], List.forall_mem_nil _⟩
  | cons f fs ih =>
    obtain ⟨hlater, hascending⟩ := List.pairwise_cons.1 hascending
    obtain ⟨hfit, hfits⟩ := List.forall_mem_cons.1 hfits
    simp only [splice?, Option.bind_eq_bind, Option.bind_eq_some_iff, Option.pure_def,
      Option.some.injEq] at hsplice
    obtain ⟨kept, hkept, rest, hrest, heq⟩ := hsplice
    obtain ⟨gone, after, rfl, hstart, hstop⟩ := exists_cut hfit hkept
    have hkeeps : f.span.start - Text.size before = Text.size kept := by
      rw [hstart, Text.size_append, Nat.add_sub_cancel_left]
    simp only [edges, hkeeps, List.forall_mem_cons] at hedges
    obtain ⟨hopens, hcloses, hedges⟩ := hedges
    rw [List.append_assoc] at heq
    simp only [Text.size_append] at hopens hcloses
    -- Which part of the text the place is in: the one that is kept, the replacing one, or the rest.
    by_cases hinKept : Text.size gap + Text.size x < Text.size kept
    · obtain ⟨tail, htail, rfl, rfl⟩ := exists_behind heq hinKept
      refine .inr ⟨before ++ gap, tail ++ (gone ++ after), by simp, getLast?_append_gap hdone, ?_,
        by simp [Text.size_append], fun g hg hle => ?_⟩
      · rw [List.head?_append_of_ne_nil _ htail, List.head?_append_of_ne_nil _ htail]
      · refine absurd hle (Nat.not_le.2 (lt_start_of_ascending hlater ?_ ?_ g hg))
        · simp only [hstart, hstop, Text.size_append]
          omega
        · simp only [hstart, Text.size_append]
          omega
    · obtain ⟨gap, hgap, rfl, hrest'⟩ := exists_between heq (by omega)
      rw [Text.size_append] at hcloses
      by_cases hinText : Text.size gap + Text.size x < Text.size f.text.toList
      · obtain ⟨tail, htail, htext, rfl⟩ := exists_behind hrest' hinText
        refine .inl ⟨f, List.mem_cons_self, gap, tail, htext, ?_, ?_⟩
        · rw [← List.append_assoc, List.getLast?_append_of_ne_nil _ hgap]
        · rw [List.head?_append_of_ne_nil _ htail]
      · obtain ⟨gap, hbehind, rfl, rfl⟩ := exists_between hrest' (by omega)
        have happend : done ++ (kept ++ (f.text.toList ++ gap)) =
            done ++ kept ++ f.text.toList ++ gap := by simp
        have hcut : before ++ (kept ++ (gone ++ after)) = before ++ kept ++ gone ++ after := by simp
        rw [happend] at hedges ⊢
        rw [hcut] at hfits hrest ⊢
        rw [hstop] at hrest hedges hlater
        obtain ⟨g, hg, hsource⟩ | ⟨pre', post', heq', hlast, hhead, hle, hspans⟩ :=
          ih (before ++ kept ++ gone) (done ++ kept ++ f.text.toList) hfits hascending hrest
            (by simpa only [Text.size_append] using hedges) (.inl hbehind)
        · exact .inl ⟨g, List.mem_cons_of_mem _ hg, hsource⟩
        · refine .inr ⟨pre', post', heq', hlast, hhead, ?_, List.forall_mem_cons.2
            ⟨fun _ => hstop ▸ hle, hspans⟩⟩
          simp only [Text.size_append] at hle
          omega

end Autofix.Fixing
