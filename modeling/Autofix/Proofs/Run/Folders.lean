import Autofix.Engine.CurrentConfig
import Mathlib.Data.List.SplitBy
import Mathlib.Data.List.Pairwise

/-!
# Files of one folder in a row

A list of files falls into maximal parts whose files lie in one folder (`folderRuns`). Nothing but
this splitting of a list has folders that are the same within a part and differ from part to part
(`folderRuns_eq_iff`).
-/

namespace Autofix

open CurrentConfig

/-- Two files lie in the same folder. -/
def SameFolder (p q : Path) : Prop := (folder p).same (folder q)

instance : DecidableRel SameFolder := fun _ _ => inferInstanceAs (Decidable (_ = true))

theorem sameFolder_iff {p q : Path} :
    SameFolder p q ↔ (folder p).components = (folder q).components := by
  simp [SameFolder, Path.same]

namespace SameFolder

variable {p q r : Path}

theorem refl (p : Path) : SameFolder p p := sameFolder_iff.2 rfl

theorem symm (h : SameFolder p q) : SameFolder q p :=
  sameFolder_iff.2 (sameFolder_iff.1 h).symm

theorem trans (hpq : SameFolder p q) (hqr : SameFolder q r) : SameFolder p r :=
  sameFolder_iff.2 ((sameFolder_iff.1 hpq).trans (sameFolder_iff.1 hqr))

instance : Trans SameFolder SameFolder SameFolder := ⟨trans⟩

instance : Std.Symm SameFolder := ⟨fun _ _ => symm⟩

end SameFolder

/-- The maximal parts of a list of files that lie in one folder each. -/
def folderRuns (files : List Path) : List (List Path) := files.splitBy fun p q => SameFolder p q

/-- Neighbours in one folder make all of them lie in one folder. -/
theorem isChain_sameFolder_iff {run : List Path} :
    (run.IsChain fun p q => decide (SameFolder p q) = true) ↔
      ∀ p ∈ run, ∀ q ∈ run, SameFolder p q := by
  simp only [decide_eq_true_eq]
  constructor
  · intro h p hp q hq
    exact (List.isChain_iff_pairwise.1 h).forall_of_forall (fun p _ => .refl p) hp hq
  · exact fun h => (List.pairwise_of_forall_mem_list h).isChain

/-- Where folders change between neighbours, none of the files before is in a folder of the files
    after. -/
theorem getLast_head_iff {run next : List Path} (hrun : ∀ p ∈ run, ∀ q ∈ run, SameFolder p q)
    (hnext : ∀ p ∈ next, ∀ q ∈ next, SameFolder p q) (hne : run ≠ []) (hne' : next ≠ []) :
    (∃ h h', decide (SameFolder (run.getLast h) (next.head h')) = false) ↔
      ∀ p ∈ run, ∀ q ∈ next, ¬SameFolder p q := by
  constructor
  · rintro ⟨h, h', hdiffer⟩ p hp q hq hpq
    refine of_decide_eq_false hdiffer ?_
    calc
      SameFolder (run.getLast h) p := hrun _ (List.getLast_mem h) _ hp
      SameFolder p q := hpq
      SameFolder q (next.head h') := hnext _ hq _ (List.head_mem h')
  · exact fun h => ⟨hne, hne', decide_eq_false (h _ (List.getLast_mem hne) _ (List.head_mem hne'))⟩

/-- The parts make up the list; none is empty; the files of a part are in one folder; and those of
    neighbouring parts are not. -/
theorem folderRuns_eq_iff {files : List Path} {runs : List (List Path)} :
    folderRuns files = runs ↔ files = runs.flatten ∧ [] ∉ runs ∧
      (∀ run ∈ runs, ∀ p ∈ run, ∀ q ∈ run, SameFolder p q) ∧
      runs.IsChain fun run next => ∀ p ∈ run, ∀ q ∈ next, ¬SameFolder p q := by
  rw [folderRuns, List.splitBy_eq_iff]
  refine and_congr_right fun _ => and_congr_right fun hne => ?_
  simp only [isChain_sameFolder_iff]
  refine and_congr_right fun hsame => ?_
  refine List.IsChain.iff_of_mem_imp fun run next hrun hnext => ?_
  exact getLast_head_iff (hsame run hrun) (hsame next hnext)
    (fun h => hne (h ▸ hrun)) (fun h => hne (h ▸ hnext))

/-- Every file is in one of the parts, which has a first file. -/
theorem exists_folderRun {files : List Path} {file : Path} (h : file ∈ files) :
    ∃ run ∈ folderRuns files, ∃ first ∈ run.head?, file ∈ run := by
  obtain ⟨hflatten, -⟩ := folderRuns_eq_iff.1 (rfl : folderRuns files = _)
  rw [hflatten] at h
  obtain ⟨run, hrun, hfile⟩ := List.mem_flatten.1 h
  obtain ⟨first, rest, rfl⟩ := List.exists_cons_of_ne_nil (List.ne_nil_of_mem hfile)
  exact ⟨_, hrun, first, rfl, hfile⟩

theorem folderRuns_singleton (p : Path) : folderRuns [p] = [[p]] := rfl

theorem folderRuns_pair {p q : Path} (h : SameFolder p q) : folderRuns [p, q] = [[p, q]] := by
  refine folderRuns_eq_iff.2 ⟨rfl, by simp, ?_, List.isChain_singleton _⟩
  simpa using ⟨⟨SameFolder.refl p, h⟩, h.symm, SameFolder.refl q⟩

end Autofix
