import Autofix.Rule.Pattern
import Mathlib.Tactic.SplitIfs

/-!
# Findings of pattern rules

* `bounds_of_mem_findAll` and `pairwise_findAll`: the matches of a regular expression lie in the
  text, each between two boundaries, from left to right, and do not overlap;
* `mem_failures_iff`: the findings of a pattern rule are its matches that are not empty, each with
  the expanded template as its fix, if that changes anything.
-/

namespace Autofix

namespace Regex

namespace Program

variable {p : Program} {groups fuel offset : Nat} {prev : Option Char} {last : Option Nat}
  {rest : List Char} {m : Match}

/-! ### One round of the search for all matches -/

/-- An empty match that touches the one before it is passed over, with one character. -/
theorem findFrom_of_touching {c : Char} (hfind : p.find? groups offset prev (c :: rest) = some m)
    (hempty : m.start = m.stop) (hlast : last = some m.stop) :
    p.findFrom groups (fuel + 1) offset prev last (c :: rest) =
      p.findFrom groups fuel (offset + c.utf8Size) (some c) last rest := by
  rw [findFrom.eq_def]
  simp only [hfind]
  rw [if_pos ⟨hempty, hlast⟩]

/-- Any other match that lies in the rest of the text is found, and the search goes on at its
    end. -/
theorem findFrom_of_lying {gap matched left : List Char}
    (hfind : p.find? groups offset prev (gap ++ (matched ++ left)) = some m)
    (hnew : ¬ (m.start = m.stop ∧ last = some m.stop)) (hstart : m.start = offset + Text.size gap)
    (hstop : m.stop = m.start + Text.size matched) :
    p.findFrom groups (fuel + 1) offset prev last (gap ++ (matched ++ left)) =
      m :: p.findFrom groups fuel m.stop ((gap ++ matched).getLast?.or prev) (some m.stop)
        left := by
  have hsplit : Text.split? (gap ++ (matched ++ left)) (m.start - offset) =
      some (gap, matched ++ left) :=
    Text.split?_eq_some_iff.2 ⟨rfl, by omega⟩
  have hsplit' : Text.split? (gap ++ (matched ++ left)) (m.stop - offset) =
      some (gap ++ matched, left) :=
    Text.split?_eq_some_iff.2 ⟨(List.append_assoc ..).symm, by rw [Text.size_append]; omega⟩
  rw [findFrom.eq_def]
  simp only [hfind]
  rw [if_neg hnew, if_pos ⟨by omega, by omega⟩, hsplit, hsplit']

/-- All that one round of the search does: it ends the search, it passes over an empty match that
    touches the one before it, or it finds a match and goes on at its end. -/
theorem findFrom_succ_cases (p : Program) (groups fuel offset : Nat) (prev : Option Char)
    (last : Option Nat) (rest : List Char) :
    p.findFrom groups (fuel + 1) offset prev last rest = [] ∨
    (∃ c cs, rest = c :: cs ∧ p.findFrom groups (fuel + 1) offset prev last rest =
      p.findFrom groups fuel (offset + c.utf8Size) (some c) last cs) ∨
    ∃ m gap matched left, rest = gap ++ (matched ++ left) ∧
      p.find? groups offset prev rest = some m ∧ m.start = offset + Text.size gap ∧
      m.stop = m.start + Text.size matched ∧
      p.findFrom groups (fuel + 1) offset prev last rest =
        m :: p.findFrom groups fuel m.stop ((gap ++ matched).getLast?.or prev) (some m.stop)
          left := by
  cases hfind : p.find? groups offset prev rest with
  | none =>
    left
    rw [findFrom.eq_def]
    simp only [hfind]
  | some m =>
    by_cases htouch : m.start = m.stop ∧ last = some m.stop
    · cases rest with
      | nil =>
        left
        rw [findFrom.eq_def]
        simp only [hfind]
        rw [if_pos htouch]
      | cons c cs => exact .inr (.inl ⟨c, cs, rfl, findFrom_of_touching hfind htouch.1 htouch.2⟩)
    · by_cases hends : p.findFrom groups (fuel + 1) offset prev last rest = []
      · exact .inl hends
      -- A match that does not end the search lies in the rest of the text.
      obtain ⟨gap, matched, left, rfl, hstart, hstop⟩ : ∃ gap matched left,
          rest = gap ++ (matched ++ left) ∧ m.start = offset + Text.size gap ∧
            m.stop = m.start + Text.size matched := by
        rw [findFrom.eq_def] at hends
        simp only [hfind] at hends
        rw [if_neg htouch] at hends
        split_ifs at hends with hlies
        · split at hends
          · next cut read left hstart hstop =>
            obtain ⟨gap, tail⟩ := cut
            obtain ⟨hcut, hsize⟩ := Text.eq_append_of_split? hstart
            obtain ⟨hcut', hsize'⟩ := Text.eq_append_of_split? hstop
            obtain ⟨matched, rfl, rfl⟩ := Text.exists_middle (hcut.symm.trans hcut') (by omega)
            rw [Text.size_append] at hsize'
            exact ⟨gap, matched, left, hcut, by omega, by omega⟩
          · exact absurd rfl hends
        · exact absurd rfl hends
      exact .inr (.inr ⟨m, gap, matched, left, rfl, rfl, hstart, hstop,
        findFrom_of_lying hfind htouch hstart hstop⟩)

/-! ### Where the matches lie -/

/-- A match that is found in the rest of a text, searched from the end of `before` on, lies between
    two boundaries of the whole text. -/
theorem bounds_of_mem_findFrom (before : List Char)
    (hm : m ∈ p.findFrom groups fuel offset prev last rest) (hoffset : Text.size before = offset) :
    m.start ≤ m.stop ∧ Text.isBoundary (before ++ rest) m.start ∧
      Text.isBoundary (before ++ rest) m.stop := by
  induction fuel generalizing offset prev last before rest with
  | zero => exact absurd hm List.not_mem_nil
  | succ fuel ih =>
    obtain hends | ⟨c, cs, rfl, hnext⟩ |
        ⟨found, gap, matched, left, rfl, -, hstart, hstop, hnext⟩ :=
      findFrom_succ_cases p groups fuel offset prev last rest
    · rw [hends] at hm
      exact absurd hm List.not_mem_nil
    · rw [hnext] at hm
      have h := ih (before ++ [c]) hm (by simp [Text.size_append, Text.size, hoffset])
      rwa [List.append_assoc, List.singleton_append] at h
    · rw [hnext] at hm
      rcases List.mem_cons.1 hm with rfl | hm
      · exact ⟨by omega,
          Text.isBoundary_iff.2 ⟨before ++ gap, matched ++ left, by simp, by
            rw [Text.size_append]
            omega⟩,
          Text.isBoundary_iff.2 ⟨before ++ gap ++ matched, left, by simp, by
            rw [Text.size_append, Text.size_append]
            omega⟩⟩
      · have h := ih (before ++ gap ++ matched) hm (by
          rw [Text.size_append, Text.size_append]
          omega)
        simpa only [List.append_assoc] using h

/-- Matches are found from left to right: those in the rest of a text start there, and each of them
    ends before the next one starts. -/
theorem ascending_findFrom (p : Program) (groups fuel offset : Nat) (prev : Option Char)
    (last : Option Nat) (rest : List Char) :
    (∀ m ∈ p.findFrom groups fuel offset prev last rest, offset ≤ m.start) ∧
      (p.findFrom groups fuel offset prev last rest).Pairwise fun m n => m.stop ≤ n.start := by
  induction fuel generalizing offset prev last rest with
  | zero => exact ⟨List.forall_mem_nil _, .nil⟩
  | succ fuel ih =>
    obtain hends | ⟨c, cs, -, hnext⟩ |
        ⟨found, gap, matched, left, -, -, hstart, hstop, hnext⟩ :=
      findFrom_succ_cases p groups fuel offset prev last rest
    · rw [hends]
      exact ⟨List.forall_mem_nil _, .nil⟩
    · rw [hnext]
      obtain ⟨hstarts, hascending⟩ := ih (offset + c.utf8Size) (some c) last cs
      exact ⟨fun m hm => Nat.le_of_add_right_le (hstarts m hm), hascending⟩
    · rw [hnext]
      obtain ⟨hstarts, hascending⟩ :=
        ih found.stop ((gap ++ matched).getLast?.or prev) (some found.stop) left
      have hle : offset ≤ found.stop := by omega
      exact ⟨List.forall_mem_cons.2 ⟨by omega, fun m hm => Nat.le_trans hle (hstarts m hm)⟩,
        hascending.cons hstarts⟩

end Program

/-- A match lies in the text, between two boundaries. -/
theorem bounds_of_mem_findAll {r : Regex} {text : List Char} {m : Match}
    (hm : m ∈ r.findAll text) :
    m.start ≤ m.stop ∧ Text.isBoundary text m.start ∧ Text.isBoundary text m.stop :=
  Program.bounds_of_mem_findFrom [] hm rfl

/-- Matches are found from left to right, and do not overlap. -/
theorem pairwise_findAll (r : Regex) (text : List Char) :
    (r.findAll text).Pairwise fun m n => m.stop ≤ n.start :=
  (r.program.ascending_findFrom _ _ _ _ _ _).2

/-- A match cuts a text into what is before it, what it matches, and what comes behind. -/
theorem exists_cut_of_mem_findAll {r : Regex} {text : List Char} {m : Match}
    (hm : m ∈ r.findAll text) : ∃ pre x post, text = pre ++ (x ++ post) ∧
      m.start = Text.size pre ∧ m.stop = Text.size pre + Text.size x := by
  obtain ⟨hle, hstart, hstop⟩ := bounds_of_mem_findAll hm
  obtain ⟨pre, rest, rfl, hpre⟩ := Text.isBoundary_iff.1 hstart
  obtain ⟨before, post, hcut, hbefore⟩ := Text.isBoundary_iff.1 hstop
  obtain ⟨x, rfl, rfl⟩ := Text.exists_middle hcut (by omega)
  exact ⟨pre, x, post, rfl, hpre.symm, by rw [← hbefore, Text.size_append]⟩

end Regex

namespace PatternRule

variable {r : PatternRule} {content : String} {f : Finding}

/-- The findings are the matches that are not empty. -/
theorem mem_failures_iff : f ∈ r.failures content ↔
    ∃ m ∈ r.regex.findAll content.toList, m.start ≠ m.stop ∧ f = r.failure content.toList m := by
  simp only [failures, List.mem_map, List.mem_filter, decide_eq_true_eq]
  constructor
  · rintro ⟨m, ⟨hm, hne⟩, rfl⟩
    exact ⟨m, hm, hne, rfl⟩
  · rintro ⟨m, hm, hne, rfl⟩
    exact ⟨m, ⟨hm, hne⟩, rfl⟩

/-- The fix for a match, if there is one, puts the expanded template in its place. -/
theorem fix_failure {text : List Char} {m : Regex.Match} {fix : Fix}
    (h : (r.failure text m).fix = some fix) :
    ∃ template, r.replacement = some template ∧
      fix = ⟨⟨m.start, m.stop⟩, String.ofList (r.regex.expand template text m)⟩ := by
  simp only [failure, Option.bind_eq_some_iff] at h
  obtain ⟨template, htemplate, h⟩ := h
  split_ifs at h
  exact ⟨template, htemplate, (Option.some.inj h).symm⟩

end PatternRule

end Autofix
