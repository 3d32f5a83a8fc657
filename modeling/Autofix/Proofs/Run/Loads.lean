import Autofix.Proofs.Path.Folder
import Autofix.Proofs.Path.Order
import Autofix.Proofs.Run.Calls
import Mathlib

/-!
# How many configurations a run loads

A configuration is loaded whenever the folder changes from one file to the next. Where the files
stand in the order of paths, those of a folder are interrupted by those of the folders below it, so
that the folder is come back to and its configuration is loaded again. But two folders never
alternate (`unalternating_folders`): of two neighbouring parts of the files, the second one is the
first of its folder, or the first one is the last of its folder. So there are fewer than twice as
many parts as there are folders.

* `length_lt_two_mul_card`: lists without alternation are short;
* `length_folderRuns`: the parts that files in order fall into;
* `Engine.lintAll_loads_le`: the configurations that linting them loads.
-/

namespace Autofix

open CurrentConfig

/-! ### Lists without alternation -/

/-- Of the elements of a list, no two alternate: once another one has come after the first and the
    first one after that, the other one does not come again. -/
def Unalternating {α : Type} (l : List α) : Prop := ∀ a b, [a, b, a, b].Sublist l → a = b

/-- Going on in a list whose neighbours differ and of which no two elements alternate. Every step
    leads to an element that has not been there before, or away from one that does not come again. -/
theorem length_lt_of_unalternating {α : Type} [DecidableEq α] {seen rest : List α} {x : α}
    (hdiffer : (seen ++ x :: rest).IsChain (· ≠ ·)) (h : Unalternating (seen ++ x :: rest)) :
    rest.length < (rest.toFinset \ (seen ++ [x]).toFinset).card + (x :: rest).toFinset.card := by
  induction rest generalizing seen x with
  | nil => simp
  | cons y rest ih =>
    have hdiffer' : (seen ++ [x] ++ y :: rest).IsChain (· ≠ ·) := by simpa using hdiffer
    have hrest := ih hdiffer' (by simpa using h)
    have hxy : x ≠ y := (List.isChain_append.1 hdiffer).2.1.rel
    have hstep : y ∉ (seen ++ [x]).toFinset ∨ x ∉ (y :: rest).toFinset := by
      by_contra! hboth
      obtain ⟨hy, hx⟩ := hboth
      have hy' : y ∈ seen := by simpa [hxy.symm] using hy
      have hx' : x ∈ rest := by simpa [hxy] using hx
      have hsublist : [y, x, y, x].Sublist (seen ++ x :: y :: rest) :=
        (List.singleton_sublist.2 hy').append
          (((List.singleton_sublist.2 hx').cons_cons y).cons_cons x)
      exact hxy (h y x hsublist).symm
    have hfirsts : rest.toFinset \ (seen ++ [x] ++ [y]).toFinset ⊆
        (y :: rest).toFinset \ (seen ++ [x]).toFinset := by
      intro z
      simp +contextual
    have hrests : (y :: rest).toFinset ⊆ (x :: y :: rest).toFinset := by
      intro z
      simp +contextual
    rw [List.length_cons]
    rcases hstep with hnew | hgone
    · have hlt := Finset.card_lt_card ((Finset.ssubset_iff_of_subset hfirsts).2
        ⟨y, by simpa using hnew, by simp⟩)
      have hle := Finset.card_le_card hrests
      omega
    · have hle := Finset.card_le_card hfirsts
      have hlt := Finset.card_lt_card ((Finset.ssubset_iff_of_subset hrests).2
        ⟨x, by simp, hgone⟩)
      omega

/-- A list whose neighbours differ, and of which no two elements alternate, has fewer places than
    twice its elements. -/
theorem length_lt_two_mul_card {α : Type} [DecidableEq α] {l : List α} (hne : l ≠ [])
    (hdiffer : l.IsChain (· ≠ ·)) (h : Unalternating l) : l.length < 2 * l.toFinset.card := by
  obtain ⟨x, rest, rfl⟩ := List.exists_cons_of_ne_nil hne
  have hdiffer' : ([] ++ x :: rest).IsChain (· ≠ ·) := hdiffer
  have hrest := length_lt_of_unalternating hdiffer' h
  have hfirsts : rest.toFinset \ ([] ++ [x]).toFinset = (x :: rest).toFinset.erase x := by
    ext z
    simp [and_comm]
  rw [hfirsts, Finset.card_erase_of_mem (by simp)] at hrest
  have hpos : 0 < (x :: rest).toFinset.card := Finset.card_pos.2 ⟨x, by simp⟩
  rw [List.length_cons]
  omega

/-! ### Folders that files in order lie in -/

variable {files : List Path} {runs : List (List Path)}

/-- The first files of parts of a list are there in order. -/
theorem filterMap_head?_sublist (runs : List (List Path)) :
    (runs.filterMap List.head?).Sublist runs.flatten := by
  induction runs with
  | nil => exact .slnil
  | cons run runs ih =>
    cases run with
    | nil => exact ih
    | cons file rest => exact (ih.trans (List.sublist_append_right rest _)).cons_cons file

theorem isChain_filterMap_head? (hne : [] ∉ runs)
    (hdiffer : runs.IsChain fun run next => ∀ p ∈ run, ∀ q ∈ next, ¬SameFolder p q) :
    (runs.filterMap List.head?).IsChain fun p q => ¬SameFolder p q := by
  induction runs with
  | nil => exact .nil
  | cons run runs ih =>
    rw [List.mem_cons, not_or] at hne
    obtain ⟨file, rest, rfl⟩ := List.exists_cons_of_ne_nil (Ne.symm hne.1)
    rw [List.isChain_cons] at hdiffer
    refine List.isChain_cons.2 ⟨fun other hother => ?_, ih hne.2 hdiffer.2⟩
    cases runs with
    | nil => cases hother
    | cons next runs =>
      rw [List.mem_cons, not_or] at hne
      obtain ⟨first, rest', rfl⟩ := List.exists_cons_of_ne_nil (Ne.symm hne.2.1)
      obtain rfl := Option.some.inj hother
      exact hdiffer.1 _ rfl file List.mem_cons_self first List.mem_cons_self

/-- Files in order lie in folders of which no two alternate. -/
theorem unalternating_folders (h : files.Pairwise fun p q => p.compare q = .lt) :
    Unalternating (files.map fun file => (folder file).components) := by
  intro a b hsublist
  obtain ⟨four, hfour, hfolders⟩ := List.sublist_map_iff.1 hsublist
  have hlength : four.length = 4 := by simpa using (congrArg List.length hfolders).symm
  obtain ⟨p, q, r, s, rfl⟩ : ∃ p q r s, four = [p, q, r, s] := List.length_eq_four.1 hlength
  simp only [List.map_cons, folder, Path.components_folder, List.cons.injEq] at hfolders
  obtain ⟨rfl, rfl, hthird, hfourth, -⟩ := hfolders
  have hsorted := h.sublist hfour
  simp only [List.pairwise_cons, List.forall_mem_cons] at hsorted
  exact Path.dropLast_eq_of_alternating hsorted.1.1 hsorted.2.1.1 hsorted.2.2.1.1 hthird hfourth

/-- The folders that files lie in, each once. -/
def foldersOf (files : List Path) : List (List Path.Component) :=
  (files.map fun file => (folder file).components).dedup

/-- The folders of the first files of all parts are the folders of all files. -/
theorem toFinset_folders_heads (files : List Path) :
    (((folderRuns files).filterMap List.head?).map fun file => (folder file).components).toFinset =
      (foldersOf files).toFinset := by
  ext dir
  simp only [foldersOf, List.mem_toFinset, List.mem_dedup, List.mem_map, List.mem_filterMap]
  obtain ⟨hflatten, -, hsame, -⟩ := folderRuns_eq_iff.1 (rfl : folderRuns files = _)
  constructor
  · rintro ⟨file, ⟨run, hrun, hhead⟩, rfl⟩
    rw [hflatten]
    exact ⟨file, List.mem_flatten_of_mem hrun (List.mem_of_mem_head? hhead), rfl⟩
  · rintro ⟨file, hfile, rfl⟩
    obtain ⟨run, hrun, first, hfirst, hmem⟩ := exists_folderRun hfile
    exact ⟨first, ⟨run, hrun, hfirst⟩,
      sameFolder_iff.1 (hsame run hrun first (List.mem_of_mem_head? hfirst) file hmem)⟩

/-- Files in order fall into at least as many parts as there are folders, and into fewer than twice
    as many. -/
theorem length_folderRuns (h : files.Pairwise fun p q => p.compare q = .lt) :
    (foldersOf files).length ≤ (folderRuns files).length ∧
      (folderRuns files).length ≤ 2 * (foldersOf files).length - 1 := by
  obtain ⟨hflatten, hnil, -, hdiffer⟩ := folderRuns_eq_iff.1 (rfl : folderRuns files = _)
  have hsublist := filterMap_head?_sublist (folderRuns files)
  rw [← hflatten] at hsublist
  have hlength : ((folderRuns files).filterMap List.head?).length = (folderRuns files).length :=
    List.filterMap_length_eq_length.2 fun run hrun =>
      List.isSome_head?.2 fun hempty => hnil (hempty ▸ hrun)
  have hfolders := toFinset_folders_heads files
  have hchain := isChain_filterMap_head? hnil hdiffer
  have hunalternating := unalternating_folders (h.sublist hsublist)
  generalize (folderRuns files).filterMap List.head? = heads at *
  have hcard : (foldersOf files).toFinset.card = (foldersOf files).length :=
    List.toFinset_card_of_nodup (List.nodup_dedup _)
  rw [← hlength, ← hcard, ← hfolders, ← List.length_map (fun file => (folder file).components)]
  refine ⟨List.toFinset_card_le _, ?_⟩
  cases heads with
  | nil => exact Nat.le_refl _
  | cons file rest =>
    have hlt := length_lt_two_mul_card (by simp) ((List.isChain_map _).2 (hchain.imp fun p q hpq =>
      fun heq => hpq (sameFolder_iff.2 heq))) hunalternating
    omega

namespace Engine

variable {σ κ : Type} {engine : Engine σ κ} {options : TaskOptions} {root : Path}
  {project : Option Project} {w w' : World σ} {loads : ℕ}

/-- Linting files in the order of paths loads a configuration for each of their folders, and in all
    fewer than twice as many. -/
theorem lintAll_loads_le (hfiles : files.Pairwise fun p q => p.compare q = .lt)
    (h : engine.lintAll options root project files w = (.ok loads, w')) :
    (foldersOf files).length ≤ loads ∧ loads ≤ 2 * (foldersOf files).length - 1 := by
  rw [engine.lintAll_of_logs options root project engine.logs_self files w []] at h
  obtain ⟨houtcome, -⟩ := Prod.mk.inj h
  cases hdone : (engine.transcript options root project files w).outcome with
  | error e => simp [hdone, Except.map] at houtcome
  | ok =>
    rw [hdone] at houtcome
    obtain rfl : _ = loads := Except.ok.inj houtcome
    exact length_folderRuns hfiles

/-- An engine that finds nothing. -/
def idle : Engine Unit Unit where
  prepare _ _ := ()
  load _ := pure ()
  lint _ _ _ := pure ()
  result _ := ⟨[], []⟩
  findFormatter _ _ := (none, ())

/-- A folder with two files and, between them, a folder with one. -/
def interrupted : World Unit where
  disk := ⟨.folder [("a.ts", .file (.text "a")), ("b", .folder [("c.ts", .file (.text "c"))]),
    ("d.ts", .file (.text "d"))], [], none⟩
  engine := ()

theorem lintAll_loads_le_interrupted :
    let files := [⟨"/a.ts"⟩, ⟨"/b/c.ts"⟩, ⟨"/d.ts"⟩]
    (files.Pairwise (fun p q => p.compare q = .lt) ∧
      ∃ w, idle.lintAll {} ⟨"/"⟩ none files interrupted = (.ok 3, w)) ∧
    (foldersOf files).length = 2 ∧
    (foldersOf files).length ≤ 3 ∧ 3 ≤ 2 * (foldersOf files).length - 1 := by
  have hfiles : [⟨"/a.ts"⟩, ⟨"/b/c.ts"⟩, ⟨"/d.ts"⟩].Pairwise fun p q : Path => p.compare q = .lt := by
    decide
  have hlint : idle.lintAll {} ⟨"/"⟩ none [⟨"/a.ts"⟩, ⟨"/b/c.ts"⟩, ⟨"/d.ts"⟩] interrupted =
      (.ok 3, _) := rfl
  exact ⟨⟨hfiles, _, hlint⟩, by decide, lintAll_loads_le hfiles hlint⟩

end Engine

end Autofix
