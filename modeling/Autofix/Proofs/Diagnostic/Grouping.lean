import Autofix.Diagnostic.Grouping
import Autofix.Proofs.Path.Parts
import Mathlib.Data.Finset.Dedup
import Mathlib.Data.Finset.Card
import Mathlib.Data.List.Perm.Basic

/-!
# The groups of a list of diagnostics

Grouping by path is a stable partition (`Diagnostic.isGrouping_byPath`): a group for each path, in
the order in which the paths first appear, and in each group the diagnostics of its path, all of them
and in their order. It follows from one equation, `Diagnostic.byPath_cons`: the first diagnostic
takes those of its path into the first group, and the other ones are grouped as if they were alone.
-/

namespace Autofix

theorem Path.same_comm (p q : Path) : p.same q = q.same p := by
  rw [Bool.eq_iff_iff, same_iff, same_iff, eq_comm]

namespace Diagnostic

variable {ds : List Diagnostic} {g : Path × List Diagnostic}

/-- How diagnostics are grouped by their paths. -/
structure IsGrouping (ds : List Diagnostic) (groups : List (Path × List Diagnostic)) : Prop where
  /-- No two groups are of the same path. -/
  distinct : groups.Pairwise fun g h => g.1.same h.1 = false
  /-- The paths of the groups are those of the diagnostics, each where and as it first appears. -/
  firsts : groups.map (·.1) = (ds.map (·.path)).eraseDupsBy Path.same
  /-- A group holds the diagnostics of its path in their order. -/
  group_eq : ∀ g ∈ groups, g.2 = ds.filter fun d => d.path.same g.1
  /-- Every diagnostic is in a group, as often as it is there. -/
  perm : (groups.flatMap (·.2)).Perm ds

/-- The number of different paths. -/
def pathCount (ds : List Diagnostic) : Nat := (ds.map (·.path.components)).toFinset.card

/-! ### One group after the other -/

/-- The first group takes what has its path, and the rest is grouped without it. -/
theorem foldl_insertGroup_cons (p : Path) (group : List Diagnostic)
    (rest : List (Path × List Diagnostic)) (ds : List Diagnostic) :
    ds.foldl (fun groups d => insertGroup d groups) ((p, group) :: rest) =
      (p, group ++ ds.filter fun d => p.same d.path) ::
        (ds.filter fun d => !p.same d.path).foldl (fun groups d => insertGroup d groups) rest := by
  induction ds generalizing group rest with
  | nil => simp
  | cons d ds ih =>
    rw [List.foldl_cons, insertGroup]
    split_ifs with hsame
    · rw [ih]
      simp [hsame]
    · rw [ih]
      simp [hsame]

/-- The first diagnostic makes up a group with all others of its path, which comes first. -/
theorem byPath_cons (d : Diagnostic) (ds : List Diagnostic) :
    byPath (d :: ds) = (d.path, d :: ds.filter fun e => d.path.same e.path) ::
      byPath (ds.filter fun e => !d.path.same e.path) :=
  foldl_insertGroup_cons d.path [d] [] ds

/-- Induction along the groups: what is left after the first group is a shorter list. -/
@[elab_as_elim]
theorem groupInduction {motive : List Diagnostic → Prop} (nil : motive [])
    (cons : ∀ d ds, motive (ds.filter fun e => !d.path.same e.path) → motive (d :: ds)) :
    ∀ ds, motive ds
  | [] => nil
  | d :: ds => cons d ds (groupInduction nil cons _)
termination_by ds => ds.length
decreasing_by exact Nat.lt_succ_of_le (List.length_filter_le _ _)

/-- A group shows the path of one of the diagnostics. -/
theorem exists_path_eq_of_mem_byPath (h : g ∈ byPath ds) : ∃ d ∈ ds, d.path = g.1 := by
  induction ds using groupInduction with
  | nil => exact absurd h List.not_mem_nil
  | cons d ds ih =>
    rw [byPath_cons] at h
    rcases List.mem_cons.1 h with rfl | h
    · exact ⟨d, List.mem_cons_self, rfl⟩
    · obtain ⟨e, he, hpath⟩ := ih h
      exact ⟨e, List.mem_cons_of_mem d (List.mem_filter.1 he).1, hpath⟩

/-- The groups behind the first one are of other paths. -/
theorem same_eq_false_of_mem_byPath_filter {p : Path}
    (h : g ∈ byPath (ds.filter fun e => !p.same e.path)) : p.same g.1 = false := by
  obtain ⟨e, he, hpath⟩ := exists_path_eq_of_mem_byPath h
  simpa [hpath] using (List.mem_filter.1 he).2

/-! ### Grouping -/

theorem pairwise_byPath (ds : List Diagnostic) :
    (byPath ds).Pairwise fun g h => g.1.same h.1 = false := by
  induction ds using groupInduction with
  | nil => exact .nil
  | cons d ds ih =>
    rw [byPath_cons]
    exact .cons (fun g hg => same_eq_false_of_mem_byPath_filter hg) ih

theorem map_fst_byPath (ds : List Diagnostic) :
    (byPath ds).map (·.1) = (ds.map (·.path)).eraseDupsBy Path.same := by
  induction ds using groupInduction with
  | nil => rfl
  | cons d ds ih =>
    have hother : (fun e : Diagnostic => !d.path.same e.path) =
        (fun q => decide (q.same d.path = false)) ∘ (·.path) := by
      funext e
      simp [Path.same_comm d.path]
    rw [byPath_cons, List.map_cons, ih, List.map_cons, List.eraseDupsBy_cons, List.filter_map, hother]

/-- Each group is what a filter by its path leaves. -/
theorem eq_filter_of_mem_byPath (h : g ∈ byPath ds) :
    g.2 = ds.filter fun d => d.path.same g.1 := by
  induction ds using groupInduction with
  | nil => exact absurd h List.not_mem_nil
  | cons d ds ih =>
    rw [byPath_cons] at h
    rcases List.mem_cons.1 h with rfl | h
    · rw [List.filter_cons_of_pos (by simp [Path.same])]
      simp only [Path.same_comm d.path]
    · have hne := same_eq_false_of_mem_byPath_filter h
      rw [ih h, List.filter_cons_of_neg (by simp [hne]), List.filter_filter]
      refine List.filter_congr fun e _ => ?_
      -- Whatever has the path of the group has not that of the first diagnostic.
      rw [Bool.and_eq_left_iff_imp]
      intro he
      rw [Path.same_iff] at he
      simpa [Path.same, he] using hne

theorem flatMap_byPath_perm (ds : List Diagnostic) : ((byPath ds).flatMap (·.2)).Perm ds := by
  induction ds using groupInduction with
  | nil => exact .refl _
  | cons d ds ih =>
    rw [byPath_cons, List.flatMap_cons, List.cons_append]
    exact ((ih.append_left _).trans (List.filter_append_perm _ ds)).cons d

/-- Diagnostics are grouped by their paths. -/
theorem isGrouping_byPath (ds : List Diagnostic) : IsGrouping ds (byPath ds) where
  distinct := pairwise_byPath ds
  firsts := map_fst_byPath ds
  group_eq _ := eq_filter_of_mem_byPath
  perm := flatMap_byPath_perm ds

theorem mem_of_mem_byPath (hg : g ∈ byPath ds) {d : Diagnostic} (hd : d ∈ g.2) : d ∈ ds :=
  (flatMap_byPath_perm ds).subset (List.mem_flatMap.2 ⟨g, hg, hd⟩)

/-- There are as many groups as different paths. -/
theorem length_byPath (ds : List Diagnostic) : (byPath ds).length = pathCount ds := by
  have hnodup : ((byPath ds).map (·.1.components)).Nodup :=
    List.pairwise_map.2 ((pairwise_byPath ds).imp fun h => by simpa [Path.same] using h)
  have hset : (ds.map (·.path.components)).toFinset =
      ((byPath ds).map (·.1.components)).toFinset := by
    ext cs
    simp only [List.mem_toFinset, List.mem_map]
    constructor
    · rintro ⟨d, hd, rfl⟩
      obtain ⟨g, hg, hdg⟩ := List.mem_flatMap.1 ((flatMap_byPath_perm ds).symm.subset hd)
      rw [eq_filter_of_mem_byPath hg] at hdg
      exact ⟨g, hg, (Path.same_iff.1 (List.mem_filter.1 hdg).2).symm⟩
    · rintro ⟨g, hg, rfl⟩
      obtain ⟨d, hd, hpath⟩ := exists_path_eq_of_mem_byPath hg
      exact ⟨d, hd, congrArg Path.components hpath⟩
  rw [pathCount, hset, List.toFinset_card_of_nodup hnodup, List.length_map]

end Diagnostic

end Autofix
