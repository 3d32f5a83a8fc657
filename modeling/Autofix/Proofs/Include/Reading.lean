import Autofix.Include
import Autofix.Proofs.Regex.Reading

/-!
# The expression of include patterns can be read

The expression that include patterns are written as is one that the reader of expressions takes, in
a way that can be said piece by piece: what is read is the tree `sourceTree` of the patterns.
-/

namespace Autofix.Include

open Regex

variable {fuel groups : ℕ} {names : List (String × ℕ)} {done items : List Tree} {tail : List Char}
  {patterns : List String}

/-! ### Trees -/

/-- The two separators, in brackets. -/
def separators : ClassTree := .union [.literal { char := '/' }, .literal { char := '\\' }]

def Piece.tree : Piece → Tree
  | .literal c => .literal { char := c }
  | .run => .repetition 0 none true (.set true separators)
  | .reach => .repetition 0 (some 1) true (.group [] (.repetition 1 none false .dot))
  | .folders => .repetition 0 (some 1) true
      (.group [] (.sequence [.repetition 1 none false .dot, .set false separators]))
  | .separator => .set false separators

/-- The groups of patterns, numbered from the number of groups before them on. -/
def groupTrees : ℕ → List String → List Tree
  | _, [] => []
  | groups, pattern :: patterns =>
    .capture (groups + 1) (Tree.ofItems ((pieces pattern).map Piece.tree)) ::
      groupTrees (groups + 1) patterns

/-- The tree of the expression of patterns. -/
def sourceTree (patterns : List String) : Tree :=
  .sequence [.anchor .lineStart, .group [] (Tree.ofBranches (groupTrees 0 patterns)),
    .group [] (.alternation [.anchor .lineEnd, .set false separators])]

/-! ### Pieces -/

theorem classItems_separators :
    classItems (fuel + 3) none [] (reader ('/' :: '\\' :: '\\' :: ']' :: tail) groups names) =
      .ok (separators, reader tail groups names) := by
  rw [classItems_item (by decide) (classItem_literal (by decide) (by decide)),
    classItems_item (by decide) (classItem_escaped (by decide) (by decide)), classItems_close]
  rfl

theorem branches_separators :
    branches (fuel + 1) done items (reader (separatorSource ++ tail) groups names) =
      branches fuel done (.set false separators :: items) (reader tail groups names) := by
  refine branches_class ('/' :: '\\' :: '\\' :: ']' :: tail) ?_
  rw [classBrackets_plain (by decide)]
  exact congrArg _ classItems_separators

theorem branches_others :
    branches (fuel + 1) done items
        (reader ('[' :: '^' :: '/' :: '\\' :: '\\' :: ']' :: tail) groups names) =
      branches fuel done (.set true separators :: items) (reader tail groups names) := by
  refine branches_class ('^' :: '/' :: '\\' :: '\\' :: ']' :: tail) ?_
  rw [classBrackets_negated (by decide)]
  exact congrArg _ classItems_separators

/-- No piece is written with a question mark first. -/
theorem head?_source (q : Piece) : ∃ c cs, q.source = c :: cs ∧ c ≠ '?' := by
  cases q with
  | literal c =>
    by_cases hc : isMeta c
    · exact ⟨'\\', [c], if_pos hc, by decide⟩
    · exact ⟨c, [], if_neg hc, fun heq => hc (heq ▸ by decide)⟩
  | _ => exact ⟨_, _, rfl, by decide⟩

theorem source_run : Piece.run.source = ['[', '^', '/', '\\', '\\', ']', '*'] := by decide

theorem source_reach : Piece.reach.source = ['(', '?', ':', '.', '+', '?', ')', '?'] := by decide

theorem source_folders : Piece.folders.source =
    ['(', '?', ':', '.', '+', '?', '[', '/', '\\', '\\', ']', ')', '?'] := by decide

/-- A piece is read as its tree. -/
theorem branches_piece (q : Piece) (fuel : ℕ) (htail : tail.head? ≠ some '?') :
    ∃ left ≥ fuel, branches (fuel + q.source.length) done items
        (reader (q.source ++ tail) groups names) =
      branches left done (q.tree :: items) (reader tail groups names) := by
  -- No piece takes more rounds than it has characters, so that the fuel of the rest is left.
  cases q with
  | literal c =>
    by_cases hc : isMeta c
    · have hsource : (Piece.literal c).source = ['\\', c] := if_pos hc
      rw [hsource]
      exact ⟨fuel + 1, Nat.le_succ _, branches_escaped hc⟩
    · have hsource : (Piece.literal c).source = [c] := if_neg hc
      rw [hsource]
      exact ⟨fuel, Nat.le_refl _, branches_literal (Bool.eq_false_iff.2 hc)⟩
  | run =>
    rw [source_run]
    refine ⟨fuel + 5, Nat.le_add_right _ _, ?_⟩
    exact branches_others.trans (branches_star rfl htail)
  | reach =>
    rw [source_reach]
    refine ⟨fuel + 6, Nat.le_add_right _ _, ?_⟩
    have hinner : branches (fuel + 7) [] []
        (reader ('.' :: '+' :: '?' :: ')' :: '?' :: tail) groups names) =
          .ok (.repetition 1 none false .dot, reader (')' :: '?' :: tail) groups names) := by
      rw [branches_dot, branches_plus_lazy rfl, branches_close]
      rfl
    exact (branches_group hinner).trans (branches_optional rfl htail)
  | folders =>
    rw [source_folders]
    refine ⟨fuel + 11, Nat.le_add_right _ _, ?_⟩
    have hinner : branches (fuel + 12) [] []
        (reader ('.' :: '+' :: '?' :: (separatorSource ++ ')' :: '?' :: tail)) groups names) =
          .ok (.sequence [.repetition 1 none false .dot, .set false separators],
            reader (')' :: '?' :: tail) groups names) := by
      rw [branches_dot, branches_plus_lazy rfl, branches_separators, branches_close]
      rfl
    exact (branches_group hinner).trans (branches_optional rfl htail)
  | separator => exact ⟨fuel + 4, Nat.le_add_right _ _, branches_separators⟩

/-- Pieces are read one after the other. -/
theorem branches_pieces (done items : List Tree) (groups : ℕ) (names : List (String × ℕ))
    (ps : List Piece) (fuel : ℕ) (htail : tail.head? ≠ some '?') :
    ∃ left ≥ fuel, branches (fuel + (ps.flatMap Piece.source).length) done items
        (reader (ps.flatMap Piece.source ++ tail) groups names) =
      branches left done ((ps.map Piece.tree).reverse ++ items) (reader tail groups names) := by
  induction ps generalizing fuel items with
  | nil => exact ⟨fuel, Nat.le_refl _, rfl⟩
  | cons q ps ih =>
    -- A question mark after the piece would make a repetition at its end a lazy one.
    have hnext : (ps.flatMap Piece.source ++ tail).head? ≠ some '?' := by
      cases ps with
      | nil => exact htail
      | cons r ps =>
        obtain ⟨c, cs, hsource, hc⟩ := head?_source r
        simp [hsource, hc]
    rw [List.flatMap_cons, List.length_append, Nat.add_comm q.source.length, ← Nat.add_assoc,
      List.append_assoc]
    obtain ⟨middle, hmiddle, hfirst⟩ := branches_piece q (fuel + (ps.flatMap Piece.source).length)
      hnext
    obtain ⟨more, rfl⟩ := Nat.exists_eq_add_of_le hmiddle
    rw [Nat.add_right_comm fuel _ more] at hfirst
    obtain ⟨left, hleft, hrest⟩ := ih (q.tree :: items) (fuel + more)
    refine ⟨left, Nat.le_trans (Nat.le_add_right _ _) hleft, ?_⟩
    rw [hfirst, hrest, List.map_cons, List.reverse_cons, List.append_assoc, List.singleton_append]

/-! ### Patterns -/

/-- The group of a pattern is read as its tree. -/
theorem branches_pattern (done items : List Tree) (tail : List Char) (groups : ℕ)
    (names : List (String × ℕ)) (pattern : String) (fuel : ℕ) :
    ∃ left ≥ fuel, branches (fuel + (group pattern).length) done items
        (reader (group pattern ++ tail) groups names) =
      branches left done
        (.capture (groups + 1) (Tree.ofItems ((pieces pattern).map Piece.tree)) :: items)
        (reader tail (groups + 1) names) := by
  obtain ⟨inside, hinside⟩ : ∃ inside, (pieces pattern).flatMap Piece.source = inside := ⟨_, rfl⟩
  have hgroup : group pattern = '(' :: (inside ++ [')']) := by rw [group, hinside, List.cons_append]
  -- A question mark at the front would make the group one of another kind.
  obtain ⟨c, cs, hcs, hc⟩ : ∃ c cs, inside ++ ')' :: tail = c :: cs ∧ c ≠ '?' := by
    cases hpieces : pieces pattern with
    | nil => exact ⟨')', tail, by simp [← hinside, hpieces], by decide⟩
    | cons q ps =>
      obtain ⟨c, cs, hsource, hc⟩ := head?_source q
      exact ⟨c, _, by simp [← hinside, hpieces, hsource]; rfl, hc⟩
  obtain ⟨left, hleft, hpieces⟩ := branches_pieces [] [] (groups + 1) names (pieces pattern)
    (fuel + 1) (show (')' :: tail).head? ≠ some '?' by simp)
  obtain ⟨more, rfl⟩ := Nat.exists_eq_add_of_le hleft
  have hinner : branches (fuel + 1 + inside.length) [] [] (reader (c :: cs) (groups + 1) names) =
      .ok (Tree.ofItems ((pieces pattern).map Piece.tree),
        reader (')' :: tail) (groups + 1) names) := by
    rw [hinside, hcs, Nat.add_right_comm fuel 1 more, branches_close] at hpieces
    rw [hpieces, List.append_nil, List.reverse_reverse]
    rfl
  refine ⟨fuel + 1 + inside.length, by omega, ?_⟩
  have hlength : fuel + (group pattern).length = fuel + 1 + inside.length + 1 := by
    rw [hgroup, List.length_cons, List.length_append, List.length_singleton]
    omega
  have htext : group pattern ++ tail = '(' :: c :: cs := by
    rw [hgroup, List.cons_append, List.append_assoc, List.singleton_append, hcs]
  rw [hlength, htext, branches_capture hc hinner]

/-- The groups of patterns are read up to the parenthesis that closes them all. -/
theorem branches_patterns (done : List Tree) (tail : List Char) (groups : ℕ)
    (names : List (String × ℕ)) (hne : patterns ≠ []) (fuel : ℕ) :
    branches (fuel + (List.intercalate ['|'] (patterns.map group)).length + 1) done []
        (reader (List.intercalate ['|'] (patterns.map group) ++ ')' :: tail) groups names) =
      .ok (Tree.ofBranches (done.reverse ++ groupTrees groups patterns),
        reader (')' :: tail) (groups + patterns.length) names) := by
  induction patterns generalizing fuel done groups with
  | nil => exact absurd rfl hne
  | cons pattern patterns ih =>
    cases patterns with
    | nil =>
      obtain ⟨left, hleft, hgroup⟩ :=
        branches_pattern done [] (')' :: tail) groups names pattern (fuel + 1)
      obtain ⟨more, rfl⟩ := Nat.exists_eq_add_of_le hleft
      rw [Nat.add_right_comm fuel 1 more, branches_close, Nat.add_right_comm] at hgroup
      simpa [List.intercalate, groupTrees, Tree.ofItems] using hgroup
    | cons next patterns =>
      obtain ⟨others, hothers⟩ :
          ∃ others, List.intercalate ['|'] ((next :: patterns).map group) = others := ⟨_, rfl⟩
      have htext : List.intercalate ['|'] ((pattern :: next :: patterns).map group) =
          group pattern ++ '|' :: others := by
        rw [← hothers]
        simp [List.intercalate]
      -- The bar starts a new branch, with fuel for all that comes behind it.
      have hlength : fuel + (group pattern ++ '|' :: others).length + 1 =
          fuel + others.length + 2 + (group pattern).length := by
        rw [List.length_append, List.length_cons]
        omega
      obtain ⟨left, hleft, hgroup⟩ := branches_pattern done [] ('|' :: (others ++ ')' :: tail))
        groups names pattern (fuel + others.length + 2)
      obtain ⟨more, rfl⟩ := Nat.exists_eq_add_of_le hleft
      have hfuel : fuel + others.length + 2 + more = fuel + more + others.length + 1 + 1 := by omega
      have hrest := ih (Tree.ofItems
        [.capture (groups + 1) (Tree.ofItems ((pieces pattern).map Piece.tree))] :: done)
        (groups + 1) (by simp) (fuel + more)
      rw [hothers] at hrest
      rw [htext, hlength, List.append_assoc, List.cons_append, hgroup, hfuel, branches_bar,
        List.reverse_singleton, hrest]
      simp [groupTrees, Tree.ofItems, Nat.add_assoc, Nat.add_comm 1]

/-! ### The whole expression -/

theorem depth_tree_le (q : Piece) : q.tree.depth ≤ 5 := by
  cases q with
  | literal c => exact Nat.zero_le _
  | _ => decide

theorem depthMax_le {ts : List Tree} {n : ℕ} (h : ∀ t ∈ ts, t.depth ≤ n) :
    Tree.depthMax ts ≤ n := by
  induction ts with
  | nil => exact Nat.zero_le n
  | cons t ts ih =>
    obtain ⟨ht, hts⟩ := List.forall_mem_cons.1 h
    exact Nat.max_le.2 ⟨ht, ih hts⟩

theorem depth_ofItems_le {ts : List Tree} {n : ℕ} (h : ∀ t ∈ ts, t.depth ≤ n) :
    (Tree.ofItems ts).depth ≤ n + 1 := by
  match ts with
  | [] => exact Nat.zero_le _
  | [t] => exact Nat.le_succ_of_le (h t List.mem_cons_self)
  | _ :: _ :: _ => exact Nat.succ_le_succ (depthMax_le h)

theorem depth_ofBranches_le {ts : List Tree} {n : ℕ} (h : ∀ t ∈ ts, t.depth ≤ n) :
    (Tree.ofBranches ts).depth ≤ n + 1 := by
  match ts with
  | [] => exact Nat.succ_le_succ (Nat.zero_le _)
  | [t] => exact Nat.le_succ_of_le (h t List.mem_cons_self)
  | _ :: _ :: _ => exact Nat.succ_le_succ (depthMax_le h)

theorem depth_groupTrees_le (groups : ℕ) (patterns : List String) :
    ∀ t ∈ groupTrees groups patterns, t.depth ≤ 7 := by
  induction patterns generalizing groups with
  | nil => exact List.forall_mem_nil _
  | cons pattern patterns ih =>
    refine List.forall_mem_cons.2 ⟨Nat.succ_le_succ (depth_ofItems_le fun t ht => ?_), ih _⟩
    obtain ⟨q, -, rfl⟩ := List.mem_map.1 ht
    exact depth_tree_le q

/-- However many patterns there are, their tree is not nested deeply. -/
theorem depth_sourceTree_le (patterns : List String) : (sourceTree patterns).depth ≤ 10 := by
  have hgroups := depth_ofBranches_le (depth_groupTrees_le 0 patterns)
  refine Nat.succ_le_succ (depthMax_le ?_)
  refine List.forall_mem_cons.2 ⟨Nat.zero_le _, List.forall_mem_cons.2 ⟨Nat.succ_le_succ hgroups,
    List.forall_mem_singleton.2 ?_⟩⟩
  decide

theorem toList_source (patterns : List String) : (source patterns).toList =
    '^' :: '(' :: '?' :: ':' :: (List.intercalate ['|'] (patterns.map group) ++
      ')' :: '(' :: '?' :: ':' :: '$' :: '|' :: (separatorSource ++ [')'])) := by
  have hsource : source patterns = String.ofList ("^(?:".toList ++
      List.intercalate ['|'] (patterns.map group) ++ ")(?:$|".toList ++ separatorSource ++
        [')']) := rfl
  have hfront : "^(?:".toList = ['^', '(', '?', ':'] := by decide
  have hback : ")(?:$|".toList = [')', '(', '?', ':', '$', '|'] := by decide
  rw [hsource, String.toList_ofList, hfront, hback]
  simp only [List.cons_append, List.nil_append, List.append_assoc]

/-- The expression of patterns is read as their tree. -/
theorem ofText?_source (hne : patterns ≠ []) :
    Parsed.ofText? (source patterns) = .ok ⟨sourceTree patterns, patterns.length, []⟩ := by
  obtain ⟨all, hall⟩ : ∃ all, List.intercalate ['|'] (patterns.map group) = all := ⟨_, rfl⟩
  have htext := toList_source patterns
  rw [hall] at htext
  have hseparators : separatorSource.length = 5 := by decide
  have hlength : 2 * (source patterns).toList.length + 2 = 2 * all.length + 33 + 1 := by
    rw [htext]
    simp only [List.length_cons, List.length_append, hseparators, List.length_nil]
    omega
  have hgroups := branches_patterns [] ('(' :: '?' :: ':' :: '$' :: '|' ::
    (separatorSource ++ [')'])) 0 [] hne (all.length + 31)
  rw [hall, List.reverse_nil, List.nil_append, Nat.zero_add] at hgroups
  -- The second parentheses hold what may come behind a match.
  have hclosing : branches (2 * all.length + 31) [] []
      (reader ('$' :: '|' :: (separatorSource ++ [')'])) patterns.length []) =
        .ok (.alternation [.anchor .lineEnd, .set false separators],
          reader [')'] patterns.length []) := by
    rw [branches_lineEnd, branches_bar, branches_separators, branches_close]
    rfl
  have hfuel : all.length + 31 + all.length + 1 = 2 * all.length + 32 := by omega
  rw [hfuel] at hgroups
  have hread : branches (2 * all.length + 33 + 1) [] [] (reader ('^' :: '(' :: '?' :: ':' ::
      (all ++ ')' :: '(' :: '?' :: ':' :: '$' :: '|' :: (separatorSource ++ [')']))) 0 []) =
        .ok (sourceTree patterns, reader [] patterns.length []) := by
    rw [branches_lineStart, branches_group hgroups, branches_group hclosing, branches_nil]
    rfl
  refine ofText?_eq_ok (Nat.le_trans (depth_sourceTree_le patterns) (by decide)) ?_
  rw [hlength, htext, hread]

end Autofix.Include
