import Autofix.Span
import Mathlib

/-!
# Positions and offsets

Going through a text, every line feed leads to the start of the next line, and every other character
to the next column (`Position.after_append`). So positions ascend from each boundary of a text to the
next one, in the order by line and then by column (`Position.ofOffset_strictMonoOn`), and they lead
back: behind as many line feeds and then as many characters as a position says, there is the offset
that it belongs to, and behind any others there is none (`Position.offset?_eq_some_iff`).

An offset that is no boundary has the position of the end of the text, whether it lies behind the
end or inside a character (`Position.ofOffset_boundaryFor`). In the latter case a span may begin
behind its own end (`Location.start_le_stop_iff`).
-/

namespace Autofix

namespace Position

variable {content cs rest : List Char} {p q : Position} {n o o' : ℕ}

/-! ### The order of positions -/

/-- The line and the column, of which the line counts first. -/
def key (p : Position) : ℕ ×ₗ ℕ := toLex (p.line, p.column)

theorem key_injective : Function.Injective key := by
  intro p q h
  cases p
  cases q
  simpa [key] using h

/-- Positions are ordered by line, and by column within a line. -/
instance : LinearOrder Position := LinearOrder.lift' key key_injective

theorem lt_iff : p < q ↔ p.line < q.line ∨ p.line = q.line ∧ p.column < q.column :=
  Prod.Lex.lt_iff

/-! ### Going through a text -/

/-- The position behind one more character. -/
def next (p : Position) (c : Char) : Position :=
  if c = '\n' then ⟨p.line + 1, 0⟩ else ⟨p.line, p.column + 1⟩

theorem lt_next (p : Position) (c : Char) : p < p.next c := by
  rw [lt_iff, next]
  split_ifs
  · exact .inl (Nat.lt_succ_self _)
  · exact .inr ⟨rfl, Nat.lt_succ_self _⟩

theorem le_foldl_next (p : Position) (cs : List Char) : p ≤ cs.foldl next p := by
  induction cs generalizing p with
  | nil => exact le_refl p
  | cons c cs ih => exact (lt_next p c).le.trans (ih (p.next c))

theorem lt_foldl_next (p : Position) (hne : cs ≠ []) : p < cs.foldl next p := by
  obtain ⟨c, cs, rfl⟩ := List.exists_cons_of_ne_nil hne
  exact (lt_next p c).trans_le (le_foldl_next (p.next c) cs)

/-- Characters other than line feeds only count as columns. -/
theorem foldl_next_of_not_mem (p : Position) (h : '\n' ∉ cs) :
    cs.foldl next p = ⟨p.line, p.column + cs.length⟩ := by
  induction cs generalizing p with
  | nil => rfl
  | cons c cs ih =>
    rw [List.mem_cons, not_or] at h
    rw [List.foldl_cons, ih _ h.2, next, if_neg fun hc => h.1 hc.symm, List.length_cons,
      Nat.add_right_comm]
    rfl

theorem after_concat (cs : List Char) (c : Char) : after (cs ++ [c]) = (after cs).next c := by
  by_cases hc : c = '\n' <;> simp [after, next, hc, List.count_append]

theorem after_eq_foldl (cs : List Char) : after cs = cs.foldl next ⟨1, 0⟩ := by
  induction cs using List.reverseRecOn with
  | nil => rfl
  | append_singleton cs c ih => rw [after_concat, ih, List.foldl_concat]

theorem after_append (cs ds : List Char) : after (cs ++ ds) = ds.foldl next (after cs) := by
  rw [after_eq_foldl, List.foldl_append, ← after_eq_foldl]

/-! ### Positions of boundaries -/

theorem ofOffset_size (cs rest : List Char) : ofOffset (cs ++ rest) (Text.size cs) = after cs := by
  have hle : Text.size cs ≤ Text.size (cs ++ rest) := by
    rw [Text.size_append]
    exact Nat.le_add_right _ _
  rw [ofOffset, Nat.min_eq_left hle, Text.split?_append]

/-- From a boundary to a later one, positions ascend. -/
theorem ofOffset_strictMonoOn (content : List Char) :
    StrictMonoOn (ofOffset content) {o | Text.isBoundary content o} := by
  intro o ho o' ho' hlt
  obtain ⟨before, rest, rfl, rfl⟩ := Text.isBoundary_iff.1 ho
  obtain ⟨before', rest', hcut, rfl⟩ := Text.isBoundary_iff.1 ho'
  obtain ⟨mid, rfl, rfl⟩ := Text.exists_middle hcut hlt.le
  have hmid : mid ≠ [] := by
    rintro rfl
    exact absurd hlt (by simp)
  rw [ofOffset_size, hcut, ofOffset_size, after_append]
  exact lt_foldl_next _ hmid

/-! ### The way back -/

/-- What is left of a text behind its first `n` line feeds. -/
def skipLines : ℕ → List Char → Option (List Char)
  | 0, cs => some cs
  | _ + 1, [] => none
  | n + 1, c :: cs => skipLines (if c = '\n' then n else n + 1) cs

/-- What is left of a text behind its first `n` characters, none of which may be a line feed. -/
def skipColumns : ℕ → List Char → Option (List Char)
  | 0, cs => some cs
  | _ + 1, [] => none
  | n + 1, c :: cs => if c = '\n' then none else skipColumns n cs

/-- The offset that a position leads to: behind the line feeds that end the lines before its own,
    and behind as many more characters as its column says. -/
def offset? (content : List Char) : Position → Option ℕ
  | ⟨0, _⟩ => none
  | ⟨line + 1, column⟩ => do
    let rest ← (skipLines line content).bind (skipColumns column)
    return Text.size content - Text.size rest

/-- Behind a line feed there is one line less to skip. -/
theorem line_next (p : Position) (c : Char) (n : ℕ) :
    (p.next c).line + (if c = '\n' then n else n + 1) = p.line + (n + 1) := by
  rw [next]
  split_ifs
  · exact Nat.add_right_comm _ _ _
  · rfl

/-- Lines are skipped from any position on, but none at all from the start of a line only. -/
theorem skipLines_eq_some_iff (p : Position) (hp : n = 0 → p.column = 0) :
    skipLines n cs = some rest ↔
      ∃ lines, cs = lines ++ rest ∧ lines.foldl next p = ⟨p.line + n, 0⟩ := by
  fun_induction skipLines n cs generalizing p with
  | case1 cs =>
    -- Where no line is to be skipped, a text that is not empty would lead away from the start.
    have hstart : p = ⟨p.line + 0, 0⟩ := congrArg (Position.mk p.line) (hp rfl)
    constructor
    · intro h
      exact ⟨[], Option.some.inj h, hstart⟩
    · rintro ⟨lines, rfl, hlines⟩
      have hnil : lines = [] := by
        by_contra hne
        exact (lt_foldl_next p hne).ne (hstart.trans hlines.symm)
      rw [hnil, List.nil_append]
  | case2 n =>
    refine iff_of_false nofun ?_
    rintro ⟨lines, hnil, hlines⟩
    rw [(List.append_eq_nil_iff.1 hnil.symm).1] at hlines
    exact absurd (congrArg line hlines) (by simp)
  | case3 n c cs ih =>
    have hcolumn : (if c = '\n' then n else n + 1) = 0 → (p.next c).column = 0 := by
      rw [next]
      split_ifs <;> simp
    rw [ih (p.next c) hcolumn, line_next]
    constructor
    · rintro ⟨lines, rfl, hlines⟩
      exact ⟨c :: lines, rfl, hlines⟩
    · rintro ⟨_ | ⟨d, lines⟩, hcs, hlines⟩
      · exact absurd (congrArg line hlines) (by simp)
      · obtain ⟨rfl, rfl⟩ := List.cons_eq_cons.1 hcs
        exact ⟨lines, rfl, hlines⟩

theorem skipColumns_eq_some_iff : skipColumns n cs = some rest ↔
    ∃ run, cs = run ++ rest ∧ run.length = n ∧ '\n' ∉ run := by
  fun_induction skipColumns n cs with
  | case1 cs =>
    constructor
    · intro h
      exact ⟨[], Option.some.inj h, rfl, List.not_mem_nil⟩
    · rintro ⟨run, rfl, hlength, -⟩
      rw [List.eq_nil_of_length_eq_zero hlength, List.nil_append]
  | case2 n =>
    refine iff_of_false nofun ?_
    rintro ⟨run, hnil, hlength, -⟩
    rw [(List.append_eq_nil_iff.1 hnil.symm).1] at hlength
    cases hlength
  | case3 n cs =>
    -- A line feed ends the columns there are.
    refine iff_of_false nofun ?_
    rintro ⟨_ | ⟨d, run⟩, hcs, hlength, hrun⟩
    · cases hlength
    · obtain ⟨rfl, -⟩ := List.cons_eq_cons.1 hcs
      exact hrun List.mem_cons_self
  | case4 n c cs hc ih =>
    rw [ih]
    constructor
    · rintro ⟨run, rfl, rfl, hrun⟩
      exact ⟨c :: run, rfl, rfl, List.not_mem_cons_of_ne_of_not_mem (Ne.symm hc) hrun⟩
    · rintro ⟨_ | ⟨d, run⟩, hcs, hlength, hrun⟩
      · cases hlength
      · obtain ⟨rfl, rfl⟩ := List.cons_eq_cons.1 hcs
        exact ⟨run, rfl, Nat.succ.inj hlength, List.not_mem_of_not_mem_cons hrun⟩

/-- A text ends with a line without its line feed, before which there is nothing or a line feed. -/
theorem exists_lines_append (cs : List Char) : ∃ lines run, cs = lines ++ run ∧
    after lines = ⟨(after cs).line, 0⟩ ∧ run.length = (after cs).column ∧ '\n' ∉ run := by
  induction cs using List.reverseRecOn with
  | nil => exact ⟨[], [], rfl, rfl, rfl, List.not_mem_nil⟩
  | append_singleton cs c ih =>
    obtain ⟨lines, run, hcs, hlines, hlength, hrun⟩ := ih
    rw [after_concat, next]
    split_ifs with hc
    · refine ⟨cs ++ [c], [], (List.append_nil _).symm, ?_, rfl, List.not_mem_nil⟩
      rw [after_concat, next, if_pos hc]
    · refine ⟨lines, run ++ [c], by rw [hcs, List.append_assoc], hlines, ?_, ?_⟩
      · rw [List.length_append, hlength, List.length_singleton]
      · simpa [hrun] using Ne.symm hc

/-- A position leads behind whole lines and a run of characters without a line feed. -/
theorem offset?_mk_eq_some_iff {column : ℕ} : offset? content ⟨n + 1, column⟩ = some o ↔
    ∃ lines run rest, content = lines ++ run ++ rest ∧ after lines = ⟨n + 1, 0⟩ ∧
      run.length = column ∧ '\n' ∉ run ∧ Text.size (lines ++ run) = o := by
  have hsize : ∀ before rest : List Char,
      Text.size (before ++ rest) - Text.size rest = Text.size before := by
    intro before rest
    rw [Text.size_append, Nat.add_sub_cancel]
  have hlines : ∀ {lines}, after lines = ⟨n + 1, 0⟩ ↔ lines.foldl next ⟨1, 0⟩ = ⟨1 + n, 0⟩ := by
    intro lines
    rw [after_eq_foldl, Nat.add_comm]
  simp only [offset?, Option.bind_eq_bind, Option.bind_eq_some_iff, hlines, pure,
    Option.some.injEq, skipLines_eq_some_iff ⟨1, 0⟩ fun _ => rfl, skipColumns_eq_some_iff]
  constructor
  · rintro ⟨rest, ⟨_, ⟨lines, rfl, hskip⟩, run, rfl, hlength, hrun⟩, rfl⟩
    rw [← List.append_assoc, hsize]
    exact ⟨lines, run, rest, rfl, hskip, hlength, hrun, rfl⟩
  · rintro ⟨lines, run, rest, rfl, hskip, hlength, hrun, rfl⟩
    exact ⟨rest, ⟨run ++ rest, ⟨lines, List.append_assoc _ _ _, hskip⟩, run, rfl, hlength, hrun⟩,
      hsize _ _⟩

/-- A position leads to the boundary that it is the position of, and to nothing else. -/
theorem offset?_eq_some_iff :
    offset? content p = some o ↔ Text.isBoundary content o ∧ ofOffset content o = p := by
  constructor
  · intro h
    obtain ⟨_ | n, column⟩ := p
    · cases h
    obtain ⟨lines, run, rest, rfl, hlines, hlength, hrun, rfl⟩ := offset?_mk_eq_some_iff.1 h
    refine ⟨Text.isBoundary_iff.2 ⟨_, _, rfl, rfl⟩, ?_⟩
    rw [ofOffset_size, after_append, hlines, foldl_next_of_not_mem _ hrun, hlength, Nat.zero_add]
  · rintro ⟨hboundary, rfl⟩
    obtain ⟨before, rest, rfl, rfl⟩ := Text.isBoundary_iff.1 hboundary
    obtain ⟨lines, run, rfl, hlines, hlength, hrun⟩ := exists_lines_append before
    rw [ofOffset_size]
    exact offset?_mk_eq_some_iff.2 ⟨lines, run, rest, rfl, hlines, hlength, hrun, rfl⟩

/-- From a boundary of a text to a later one, positions ascend, and each leads back to its boundary;
    whatever else leads somewhere is such a position, too. -/
theorem strictMonoOn_ofOffset_leadsBack (content : List Char) :
    StrictMonoOn (ofOffset content) {o | Text.isBoundary content o} ∧
      ∀ o p, Text.isBoundary content o ∧ ofOffset content o = p ↔ offset? content p = some o :=
  ⟨ofOffset_strictMonoOn content, fun _ _ => offset?_eq_some_iff.symm⟩

/-- Line breaks, an empty line and characters of several bytes. -/
example : (List.range 9).map (Position.ofOffset "é\n\nü€".toList) =
    [⟨1, 0⟩, ⟨3, 2⟩, ⟨1, 1⟩, ⟨2, 0⟩, ⟨3, 0⟩, ⟨3, 2⟩, ⟨3, 1⟩, ⟨3, 2⟩, ⟨3, 2⟩] := by decide

/-! ### Offsets that are no boundaries -/

/-- The boundary whose position an offset gets: its own if it is one, else that of the end. -/
def boundaryFor (content : List Char) (o : ℕ) : ℕ :=
  if Text.isBoundary content o then o else Text.size content

theorem isBoundary_size (content : List Char) : Text.isBoundary content (Text.size content) :=
  Text.isBoundary_iff.2 ⟨content, [], (List.append_nil _).symm, rfl⟩

theorem le_size_of_isBoundary (h : Text.isBoundary content o) : o ≤ Text.size content := by
  obtain ⟨before, rest, rfl, rfl⟩ := Text.isBoundary_iff.1 h
  rw [Text.size_append]
  exact Nat.le_add_right _ _

theorem isBoundary_boundaryFor (content : List Char) (o : ℕ) :
    Text.isBoundary content (boundaryFor content o) := by
  rw [boundaryFor]
  split_ifs with h
  · exact h
  · exact isBoundary_size content

/-- An offset that is no boundary has the position of the end. -/
theorem ofOffset_boundaryFor (content : List Char) (o : ℕ) :
    ofOffset content (boundaryFor content o) = ofOffset content o := by
  have hend : ofOffset content (Text.size content) = after content := by
    have h := ofOffset_size content []
    rwa [List.append_nil] at h
  rw [boundaryFor]
  split_ifs with hboundary
  · rfl
  rw [hend, ofOffset]
  rcases Nat.le_total o (Text.size content) with hle | hle
  · have hsplit : Text.split? content o = none := by simpa [Text.isBoundary] using hboundary
    rw [Nat.min_eq_left hle, hsplit]
  · have hsplit : Text.split? content (Text.size content) = some (content, []) :=
      Text.split?_eq_some_iff.2 ⟨(List.append_nil _).symm, rfl⟩
    rw [Nat.min_eq_right hle, hsplit]

/-- Positions are in the order of the boundaries whose positions they are. -/
theorem ofOffset_le_iff :
    ofOffset content o ≤ ofOffset content o' ↔ boundaryFor content o ≤ boundaryFor content o' := by
  rw [← ofOffset_boundaryFor content o, ← ofOffset_boundaryFor content o']
  exact (ofOffset_strictMonoOn content).le_iff_le (isBoundary_boundaryFor _ _)
    (isBoundary_boundaryFor _ _)

/-- Whether an offset lies between the bytes of one character. -/
def isInside (content : List Char) (o : ℕ) : Bool :=
  o < Text.size content && !Text.isBoundary content o

/-- An offset gets a boundary behind that of a later one only if it lies inside a character, and the
    later one is a boundary before the end. -/
theorem boundaryFor_le_iff (h : o ≤ o') : boundaryFor content o ≤ boundaryFor content o' ↔
    ¬(isInside content o ∧ Text.isBoundary content o' ∧ o' < Text.size content) := by
  rw [isInside, boundaryFor, boundaryFor]
  by_cases ho : Text.isBoundary content o
  · have hle := le_size_of_isBoundary ho
    by_cases ho' : Text.isBoundary content o' <;> simp [ho, ho', h, hle]
  · by_cases ho' : Text.isBoundary content o'
    · simp only [ho, ho', if_false, if_true, Bool.false_eq_true, Bool.not_false, Bool.and_true,
        decide_eq_true_eq, true_and]
      omega
    · simp [ho, ho']

end Position

namespace Location

/-- A span that does not end before its start has a location that does not either, unless it starts
    inside a character and ends at a boundary before the end of the text: the offset inside the
    character has the position of the end. -/
theorem start_le_stop_iff {content : List Char} {span : Span} (h : span.start ≤ span.stop) :
    (ofSpan content span).start ≤ (ofSpan content span).stop ↔
      ¬(Position.isInside content span.start ∧ Text.isBoundary content span.stop ∧
        span.stop < Text.size content) := by
  rw [ofSpan, Position.ofOffset_le_iff, Position.boundaryFor_le_iff h]

theorem start_le_stop_pastEnd : (⟨1, 9⟩ : Span).start ≤ (⟨1, 9⟩ : Span).stop ∧
    (ofSpan "é\nx".toList ⟨1, 9⟩).start ≤ (ofSpan "é\nx".toList ⟨1, 9⟩).stop :=
  ⟨by decide, (start_le_stop_iff (by decide)).2 (by decide)⟩

theorem start_behind_stop : (⟨1, 2⟩ : Span).start ≤ (⟨1, 2⟩ : Span).stop ∧
    ofSpan "é\nx".toList ⟨1, 2⟩ = ⟨⟨2, 1⟩, ⟨1, 1⟩⟩ ∧
    ¬(ofSpan "é\nx".toList ⟨1, 2⟩).start ≤ (ofSpan "é\nx".toList ⟨1, 2⟩).stop := by
  decide

end Location

end Autofix
