import Autofix.Proofs.Config.Source
import Autofix.Proofs.Disk.Lookup
import Autofix.Proofs.Disk.Rewriting
import Autofix.Proofs.Path.Folder

/-!
# Where configuration files are found

The configuration of a linted file depends on the folder of the file only: it is the first one among
the candidates in this folder and above it (`findNearest_eq`). Folders that say the same have
candidates that lead to the same (`forall₂_candidates`), and writing to files changes none of this
(`ConfigSource.file?_eq`).
-/

namespace Autofix

variable {d d' : Disk} {places : Disk.Place → Prop} {file dir dir' p : Path}

namespace LintConfig

/-- The paths at which the configuration of the files in a folder may be, the preferred one
    first. -/
def candidates (dir : Path) : List Path :=
  dir.ancestors.flatMap fun dir => fileNames.map fun name => dir.join ⟨name⟩

theorem find?_candidates (d : Disk) (dir : Path) :
    (candidates dir).find? d.isFile = dir.ancestors.findSome? (findIn d) :=
  List.find?_flatMap

/-- Where the root is a file, there are no configuration files. -/
theorem findIn_of_root {content : Disk.Content} (h : d.root = .file content) :
    findIn d ⟨""⟩ = none := by
  have hget : ∀ name, d.root.get? (d.current ++ [name]) = none := by
    intro name
    rw [h]
    cases d.current <;> rfl
  have hname : ∀ name ∈ fileNames, Disk.parts name = [name] ∧ Disk.isBlank name = false ∧
      name ≠ ".." ∧ ¬255 < name.utf8ByteSize ∧ '\x00' ∉ name.toList ∧ name ≠ "" ∧
      (Path.mk name).isShort ∧ (Path.mk name).isAbsolute = false := by decide
  have hmissing : ∀ name ∈ fileNames, d.isFile ((⟨""⟩ : Path).join ⟨name⟩) = false := by
    intro name hmem
    obtain ⟨hparts, hblank, hup, hlong, hnul, hempty, hshort, habsolute⟩ := hname name hmem
    have hfind : d.find true ⟨name⟩ = .ok (.missing (d.current ++ [name])) := by
      simp [Disk.find, hparts, hnul, hempty, hshort, habsolute, Disk.linkLimit, Disk.resolve,
        Disk.follow, hblank, hup, hlong, hget]
    simp [Path.empty_join, Disk.isFile, Disk.stat, hfind, bind, Except.bind, throw, throwThe,
      MonadExceptOf.throw]
  simpa [findIn] using hmissing

/-- What has no folder and is a file is the root. -/
theorem exists_root_of_parent? (hfile : d.isFile file) (h : file.parent? = none) :
    ∃ content, d.root = .file content := by
  obtain ⟨place, content, hstat⟩ := Disk.isFile_iff.1 hfile
  have hfind := Disk.stat_eq_ok_iff.1 hstat
  have hcomponents : file.components = [] ∨ file.components = [.root] := by
    have hparent := Path.components_parent? file
    rw [h] at hparent
    by_contra hne
    rw [if_neg hne] at hparent
    cases hparent
  rcases hcomponents with hnil | hroot
  · rw [Path.components_eq_nil_iff.1 hnil] at hfind
    simp [Disk.find] at hfind
  · refine ⟨content, ?_⟩
    obtain ⟨hlead, hsaying⟩ := (Path.components_eq_iff (q := ⟨"/"⟩)).1 hroot
    -- The path says nothing but the root, so that looking it up stays there.
    have hblank : ∀ part ∈ Disk.parts file.text, Disk.isBlank part := by
      have hnone : Disk.saying (Disk.parts file.text) = [] := by
        rw [Disk.parts_text, Disk.saying_map_ofList, hsaying]
        decide
      simpa [Disk.saying] using hnone
    have habsolute : file.isAbsolute := Path.isAbsolute_iff.2 hlead
    have hfollow : Disk.resolve d.root true Disk.linkLimit [] (Disk.parts file.text ++ []) = _ :=
      Disk.follow_append_of_blank hblank [] []
    rw [List.append_nil] at hfollow
    simp only [Disk.find, habsolute, if_true] at hfind
    split_ifs at hfind
    rw [hfollow, Disk.follow, Disk.Tree.get?] at hfind
    exact (Disk.Found.node.inj (Except.ok.inj hfind)).2

/-- The nearest configuration file of a file. -/
theorem findNearest_eq (h : d.isFile file) : findNearest d file =
    ((candidates file.folder).find? d.isFile).or (d.home.bind (findIn d)) := by
  rw [findNearest, if_pos h, find?_candidates]
  cases hparent : file.parent? with
  | some dir => rw [Path.folder, hparent]; rfl
  | none =>
    -- The file is the root, and nothing can be found beside it.
    obtain ⟨content, hroot⟩ := exists_root_of_parent? h hparent
    have hancestors : (⟨""⟩ : Path).ancestors = [⟨""⟩] := by decide
    rw [Path.folder, hparent, Option.getD_none, hancestors, List.findSome?_singleton,
      findIn_of_root hroot]
    rfl

/-- Folders that say the same have the same candidates below them. -/
theorem forall₂_candidates (h : dir.components = dir'.components) :
    List.Forall₂ Path.Respells (candidates dir) (candidates dir') := by
  refine List.rel_flatMap (Path.ancestors_congr h) fun a b hab => ?_
  rw [List.forall₂_map_left_iff, List.forall₂_map_right_iff, List.forall₂_same]
  exact fun name _ => ⟨a, b, ⟨name⟩, hab, rfl, rfl⟩

/-- Of short paths that say the same, the first file of one list says the same as that of the
    other. -/
theorem find?_isFile_respells {ps ps' : List Path} (h : List.Forall₂ Path.Respells ps ps')
    (hshort : ∀ p ∈ ps, p.isShort) (hshort' : ∀ p ∈ ps', p.isShort) (d : Disk) :
    Option.Rel Path.Respells (ps.find? d.isFile) (ps'.find? d.isFile) := by
  induction h with
  | nil => exact .none
  | @cons p p' ps ps' hp _ ih =>
    rw [List.forall_mem_cons] at hshort hshort'
    rw [List.find?_cons, List.find?_cons, ← hp.isFile_eq hshort.1 hshort'.1 d]
    cases d.isFile p with
    | true => exact .some hp
    | false => exact ih hshort.2 hshort'.2

end LintConfig

/-- Where a source leads to is not changed by writing to files. -/
theorem ConfigSource.file?_eq (h : d.Rewrites places d') (source : ConfigSource) :
    source.file? d' = source.file? d := by
  have hisFile : d'.isFile = d.isFile := funext h.isFile_eq
  have hfindIn : LintConfig.findIn d' = LintConfig.findIn d := by
    funext dir
    rw [LintConfig.findIn, LintConfig.findIn, hisFile]
  cases source <;>
    simp only [file?, LintConfig.findAt, LintConfig.findNearest, hisFile, hfindIn, h.home_eq]

end Autofix
