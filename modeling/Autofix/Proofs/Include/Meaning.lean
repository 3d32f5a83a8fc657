import Autofix.Proofs.Include.Reading
import Autofix.Proofs.Regex.Search
import Mathlib

/-!
# What the expression of include patterns matches

Each piece takes a part off the front of a text, in one or more ways (`Piece.Takes`), and so does
the expression that it is written as. Patterns select a text if the pieces of one of them take off a
part of it that the text or a segment of it ends with (`exists_read?_source`). Since a way may be
given back, the order in which the expression prefers the ways does not matter for that.
-/

namespace Autofix.Include

open Regex Unicode

variable {c : Char} {patterns : List String}

/-! ### Sets of characters -/

theorem contains_single {d : Char} : (CodeSet.single c).contains d ↔ d = c := by
  have hchar : d = c ↔ d.toNat = c.toNat := ⟨congrArg _, Char.toNat_inj.1⟩
  rw [hchar]
  simp only [CodeSet.single, CodeSet.contains, CodeSet.containsCode, CodeSet.among]
  split_ifs <;> simp <;> omega

def separatorSet : CodeSet := ⟨[(47, 47), (92, 92)]⟩

theorem contains_separatorSet : separatorSet.contains c ↔ isSeparator c := by
  have h₁ : c = '/' ↔ c.toNat = 47 := Char.toNat_inj.symm
  have h₂ : c = '\\' ↔ c.toNat = 92 := Char.toNat_inj.symm
  rw [isSeparator, Bool.or_eq_true, decide_eq_true_iff, decide_eq_true_iff, h₁, h₂]
  simp only [separatorSet, CodeSet.contains, CodeSet.containsCode, CodeSet.among]
  split_ifs <;> simp <;> omega

theorem toNat_le_last (c : Char) : c.toNat ≤ CodeSet.last := by
  have h := c.valid
  simp only [UInt32.isValidChar, Nat.isValidChar] at h
  change c.val.toNat ≤ 0x10FFFF
  omega

theorem contains_compl_separatorSet : separatorSet.compl.contains c ↔ ¬isSeparator c := by
  rw [← contains_separatorSet]
  have h : separatorSet.compl = ⟨[(0, 46), (48, 91), (93, CodeSet.last)]⟩ := by decide
  have hlast := toNat_le_last c
  rw [h]
  simp only [separatorSet, CodeSet.contains, CodeSet.containsCode, CodeSet.among]
  split_ifs <;> simp <;> omega

theorem contains_compl_newline : (CodeSet.single '\n').compl.contains c ↔ c ≠ '\n' := by
  have h : (CodeSet.single '\n').compl = ⟨[(0, 9), (11, CodeSet.last)]⟩ := by decide
  have hlast := toNat_le_last c
  have hchar : c = '\n' ↔ c.toNat = 10 := Char.toNat_inj.symm
  rw [h, ne_eq, hchar]
  simp only [CodeSet.contains, CodeSet.containsCode, CodeSet.among]
  split_ifs <;> simp <;> omega

/-! ### Pieces -/

/-- The ways in which a piece takes a part off the front of a text. -/
def Piece.Takes : Piece → List Char → List Char → Prop
  | .literal c, text, rest => text = c :: rest
  | .run, text, rest => ∃ run : List Char, (∀ c ∈ run, ¬isSeparator c) ∧ text = run ++ rest
  | .reach, text, rest => ∃ run : List Char, (∀ c ∈ run, c ≠ '\n') ∧ text = run ++ rest
  | .folders, text, rest => text = rest ∨ ∃ (run : List Char) (c : Char), run ≠ [] ∧
    (∀ c ∈ run, c ≠ '\n') ∧ isSeparator c ∧ text = run ++ c :: rest
  | .separator, text, rest => ∃ c, isSeparator c ∧ text = c :: rest

/-- The ways in which pieces take parts off, one after the other. -/
def TakesAll : List Piece → List Char → List Char → Prop
  | [], text, rest => text = rest
  | q :: ps, text, rest => ∃ mid, q.Takes text mid ∧ TakesAll ps mid rest

/-- The meaning of a tree, in terms of what is left of a text. -/
def Means (t : Tree) (T : List Char → List Char → Prop) : Prop :=
  ∃ e, t.meaning {} = .ok (e, {}) ∧ e.Takes T

theorem meaning_separators :
    (Tree.set false separators).meaning {} = .ok (.set separatorSet, {}) := by cbv

theorem takes_separators : (Expr.set separatorSet).Takes
    fun text rest => ∃ c, isSeparator c ∧ text = c :: rest :=
  (Expr.takes_set _).congr fun text rest => by simp only [contains_separatorSet]

/-- Repetitions of one character out of a set take a run of such characters. -/
theorem takes_loop_set {s : CodeSet} {P : Char → Prop} (hs : ∀ c, s.contains c ↔ P c) (lo : ℕ)
    (greedy : Bool) : (Expr.loop lo none greedy (.set s)).Takes fun text rest =>
      ∃ run : List Char, lo ≤ run.length ∧ (∀ c ∈ run, P c) ∧ text = run ++ rest := by
  refine ((Expr.takes_set s).loop lo none greedy).congr fun text rest => ?_
  simp only [hs, rounds_set_iff]
  constructor
  · rintro ⟨n, hlo, -, run, rfl, hrun, htext⟩
    exact ⟨run, hlo, hrun, htext⟩
  · rintro ⟨run, hlo, hrun, htext⟩
    exact ⟨run.length, hlo, nofun, run, rfl, hrun, htext⟩

/-- A repetition of at most one round takes a part or nothing. -/
theorem takes_optional {e : Expr} {T : List Char → List Char → Prop} (h : e.Takes T)
    (greedy : Bool) : (Expr.loop 0 (some 1) greedy e).Takes fun text rest =>
      text = rest ∨ T text rest := by
  refine (h.loop 0 (some 1) greedy).congr fun text rest => ?_
  constructor
  · rintro ⟨n, -, hn, hrounds⟩
    have hle : n ≤ 1 := hn 1 rfl
    obtain rfl | rfl : n = 0 ∨ n = 1 := by omega
    · exact .inl hrounds
    · obtain ⟨mid, hfirst, rfl⟩ := rounds_succ_iff.1 hrounds
      exact .inr hfirst
  · rintro (rfl | hT)
    · exact ⟨0, Nat.le_refl 0, fun _ _ => Nat.zero_le _, rfl⟩
    · refine ⟨1, Nat.zero_le 1, fun m hm => ?_, rounds_succ_iff.2 ⟨rest, hT, rfl⟩⟩
      obtain rfl := Option.some.inj hm
      exact Nat.le_refl 1

/-- The expression of at least one character of a line, as few of them as can be. -/
def someOfLine : Expr := .loop 1 none false (.set (CodeSet.single '\n').compl)

theorem takes_someOfLine : someOfLine.Takes fun text rest =>
    ∃ run : List Char, 1 ≤ run.length ∧ (∀ c ∈ run, c ≠ '\n') ∧ text = run ++ rest :=
  takes_loop_set (fun _ => contains_compl_newline) 1 false

/-- The tree of a piece means what the piece takes. -/
theorem means_tree (q : Piece) : Means q.tree q.Takes := by
  cases q with
  | literal c =>
    refine ⟨.set (CodeSet.single c), rfl, (Expr.takes_set _).congr fun text rest => ?_⟩
    simp only [contains_single, exists_eq_left]
    rfl
  | run =>
    refine ⟨.loop 0 none true (.set separatorSet.compl), by cbv,
      (takes_loop_set (fun _ => contains_compl_separatorSet) 0 true).congr fun text rest => ?_⟩
    simp [Piece.Takes]
  | reach =>
    -- Nothing, or at least one character: together any run.
    refine ⟨.loop 0 (some 1) true someOfLine, rfl,
      (takes_optional takes_someOfLine true).congr fun text rest => ?_⟩
    constructor
    · rintro (rfl | ⟨run, -, hrun, htext⟩)
      · exact ⟨[], List.forall_mem_nil _, rfl⟩
      · exact ⟨run, hrun, htext⟩
    · rintro ⟨_ | ⟨c, run⟩, hrun, htext⟩
      · exact .inl htext
      · exact .inr ⟨c :: run, Nat.succ_le_succ (Nat.zero_le _), hrun, htext⟩
  | folders =>
    refine ⟨.loop 0 (some 1) true (.seq someOfLine (.set separatorSet)), by cbv,
      (takes_optional (takes_someOfLine.seq takes_separators) true).congr fun text rest => ?_⟩
    constructor
    · rintro (rfl | ⟨mid, ⟨run, hlength, hrun, rfl⟩, c, hc, rfl⟩)
      · exact .inl rfl
      · exact .inr ⟨run, c, List.ne_nil_of_length_pos hlength, hrun, hc, rfl⟩
    · rintro (rfl | ⟨run, c, hne, hrun, hc, rfl⟩)
      · exact .inl rfl
      · exact .inr ⟨c :: rest, ⟨run, List.length_pos_iff.2 hne, hrun, rfl⟩, c, hc, rfl⟩
  | separator => exact ⟨_, meaning_separators, takes_separators⟩

/-! ### Patterns -/

theorem meaning_ofItems (f : Flags) (ts : List Tree) :
    (Tree.ofItems ts).meaning f = Tree.itemsMeaning f ts := by
  match ts with
  | [] => rfl
  | [t] => rfl
  | _ :: _ :: _ => rfl

theorem meaning_ofBranches (f : Flags) {ts : List Tree} (hne : ts ≠ []) :
    (Tree.ofBranches ts).meaning f = Tree.branchesMeaning f ts := by
  match ts with
  | [] => exact absurd rfl hne
  | [t] => rfl
  | _ :: _ :: _ => rfl

/-- The trees of pieces, one after the other, mean what the pieces take. -/
theorem means_pieces (ps : List Piece) :
    Means (Tree.ofItems (ps.map Piece.tree)) (TakesAll ps) := by
  simp only [Means, meaning_ofItems]
  induction ps with
  | nil => exact ⟨.empty, rfl, Expr.takes_empty⟩
  | cons q ps ih =>
    obtain ⟨a, ha, htakes⟩ := means_tree q
    cases ps with
    | nil =>
      refine ⟨a, ha, htakes.congr fun text rest => ?_⟩
      simp [TakesAll]
    | cons r ps =>
      obtain ⟨b, hb, hrest⟩ := ih
      refine ⟨.seq a b, ?_, htakes.seq hrest⟩
      rw [List.map_cons] at hb
      simp only [List.map_cons, Tree.itemsMeaning, ha, hb, bind, Except.bind, pure, Except.pure]

/-- The groups of patterns mean what the pieces of one of the patterns take. -/
theorem means_groupTrees (hne : patterns ≠ []) (groups : ℕ) :
    Means (Tree.ofBranches (groupTrees groups patterns)) fun text rest =>
      ∃ pattern ∈ patterns, TakesAll (pieces pattern) text rest := by
  have hgroups : ∀ {groups patterns}, patterns ≠ [] → groupTrees groups patterns ≠ [] := by
    rintro groups (_ | ⟨pattern, patterns⟩) hne
    · exact absurd rfl hne
    · exact List.cons_ne_nil _ _
  rw [Means, meaning_ofBranches _ (hgroups hne)]
  induction patterns generalizing groups with
  | nil => exact absurd rfl hne
  | cons pattern patterns ih =>
    obtain ⟨a, ha, htakes⟩ := means_pieces (pieces pattern)
    cases patterns with
    | nil =>
      refine ⟨.group (groups + 1) a, ?_, (htakes.group _).congr fun text rest => ?_⟩
      · simp only [groupTrees, Tree.branchesMeaning, Tree.meaning, ha, bind, Except.bind, pure,
          Except.pure]
      · simp
    | cons next patterns =>
      -- The groups of the other patterns are numbered from the next number on.
      obtain ⟨b, hb, hrest⟩ := ih (by simp) (groups + 1)
      refine ⟨.alt (.group (groups + 1) a) b, ?_, ((htakes.group _).alt hrest).congr
        fun text rest => ?_⟩
      · rw [groupTrees] at hb
        simp only [groupTrees, Tree.branchesMeaning, Tree.meaning, ha, hb, bind, Except.bind, pure,
          Except.pure]
      · simp

/-! ### Matching -/

/-- Whether a match may end before the given rest: the text ends there, or a segment does. -/
def Closed (rest : List Char) : Prop := rest = [] ∨ ∃ c cs, isSeparator c ∧ rest = c :: cs

theorem takes_closing : (Expr.alt (.look .textEnd) (.set separatorSet)).Takes fun text rest =>
    text = [] ∧ rest = [] ∨ ∃ c, isSeparator c ∧ text = c :: rest :=
  Expr.takes_textEnd.alt takes_separators

/-- The expression of patterns, around that of their groups. -/
def sourceExpr (groups : Expr) : Expr :=
  .seq (.look .textStart) (.seq groups (.alt (.look .textEnd) (.set separatorSet)))

theorem meaning_sourceTree {a : Expr}
    (ha : (Tree.ofBranches (groupTrees 0 patterns)).meaning {} = .ok (a, {})) :
    (sourceTree patterns).meaning {} = .ok (sourceExpr a, {}) := by
  have hstart : (Tree.anchor .lineStart).meaning {} = .ok (.look .textStart, {}) := rfl
  have hgroups : (Tree.group [] (Tree.ofBranches (groupTrees 0 patterns))).meaning {} =
      .ok (a, {}) := by
    have hset : ({} : Flags).setAll [] = {} := rfl
    rw [Tree.meaning, hset, ha]
    rfl
  have hclosing :
      (Tree.group [] (.alternation [.anchor .lineEnd, .set false separators])).meaning {} =
        .ok (.alt (.look .textEnd) (.set separatorSet), {}) := by cbv
  rw [sourceTree, Tree.meaning, sourceExpr]
  simp only [Tree.itemsMeaning, hstart, hgroups, hclosing, bind, Except.bind, pure, Except.pure]

theorem read?_source (hne : patterns ≠ []) {e : Expr}
    (hmeaning : (sourceTree patterns).meaning {} = .ok (e, {})) :
    Regex.read? {} (source patterns) = if e.weight > sizeLimit then .error .tooLarge
      else .ok ⟨Program.ofExpr e, patterns.length, []⟩ := by
  simp only [Regex.read?, ofText?_source hne, hmeaning, bind, Except.bind]
  split_ifs <;> rfl

/-- Of the expression of patterns a search finds what is at the front of a text and closed there. -/
theorem isMatch_sourceExpr {a : Expr} {T : List Char → List Char → Prop} (ha : a.Takes T)
    {r : Regex} (hr : r.program = Program.ofExpr (sourceExpr a)) {text : List Char} :
    r.isMatch text ↔ ∃ rest, T text rest ∧ Closed rest := by
  have htakes := ha.seq takes_closing
  rw [Regex.isMatch_iff hr]
  constructor
  · rintro ⟨read, rest, q, rfl, m, ⟨hstart, rfl⟩, hmatches⟩
    -- The expression matches at the start of a text only, which nothing stands before.
    have hread : read = [] := List.getLast?_eq_none_iff.1 (by simpa [Look.holds] using hstart)
    obtain ⟨mid, hmid, hclosed⟩ := (htakes _ q.rest).1 ⟨q.before, hmatches⟩
    rw [hread]
    refine ⟨mid, hmid, ?_⟩
    obtain ⟨hend, -⟩ | ⟨c, hc, hnext⟩ := hclosed
    · exact .inl hend
    · exact .inr ⟨c, _, hc, hnext⟩
  · rintro ⟨mid, hmid, hclosed⟩
    have hrest : ∃ rest, mid = [] ∧ rest = [] ∨ ∃ c, isSeparator c ∧ mid = c :: rest := by
      obtain rfl | ⟨c, cs, hc, rfl⟩ := hclosed
      · exact ⟨[], .inl ⟨rfl, rfl⟩⟩
      · exact ⟨cs, .inr ⟨c, hc, rfl⟩⟩
    obtain ⟨rest, hrest⟩ := hrest
    obtain ⟨before, hmatches⟩ := (htakes ⟨none, text⟩ rest).2 ⟨mid, hmid, hrest⟩
    exact ⟨[], text, ⟨before, rest⟩, rfl, ⟨none, text⟩, ⟨rfl, rfl⟩, hmatches⟩

/-- Whether the expression of patterns keeps to the limit on its size. -/
def keepsToLimit (patterns : List String) : Bool :=
  match (sourceTree patterns).meaning {} with
  | .ok (e, _) => e.weight ≤ sizeLimit
  | .error _ => false

theorem read?_source_ne_tooLarge (hne : patterns ≠ []) (h : keepsToLimit patterns) :
    Regex.read? {} (source patterns) ≠ .error .tooLarge := by
  obtain ⟨a, ha, -⟩ := means_groupTrees hne 0
  have hmeaning := meaning_sourceTree ha
  have hweight : (sourceExpr a).weight ≤ sizeLimit := by simpa [keepsToLimit, hmeaning] using h
  rw [read?_source hne hmeaning, if_neg (Nat.not_lt.2 hweight)]
  exact nofun

/-- The expression of patterns can be read, unless it is too large; it matches a text if the pieces
    of one of the patterns take off a part that ends with the text or a segment. -/
theorem exists_read?_source (hne : patterns ≠ [])
    (hsize : Regex.read? {} (source patterns) ≠ .error .tooLarge) :
    ∃ r, Regex.read? {} (source patterns) = .ok r ∧ ∀ text, r.isMatch text ↔
      ∃ pattern ∈ patterns, ∃ rest, TakesAll (pieces pattern) text rest ∧ Closed rest := by
  obtain ⟨a, ha, hgroups⟩ := means_groupTrees hne 0
  rw [read?_source hne (meaning_sourceTree ha)] at hsize ⊢
  split_ifs at hsize ⊢ with hweight
  · exact absurd rfl hsize
  · refine ⟨_, rfl, fun text => (isMatch_sourceExpr hgroups rfl).trans ?_⟩
    constructor
    · rintro ⟨rest, ⟨pattern, hpattern, htakes⟩, hclosed⟩
      exact ⟨pattern, hpattern, rest, htakes, hclosed⟩
    · rintro ⟨pattern, hpattern, rest, htakes, hclosed⟩
      exact ⟨rest, ⟨pattern, hpattern, htakes⟩, hclosed⟩

end Autofix.Include
