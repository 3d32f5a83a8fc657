import Autofix.Proofs.Disk.Rewriting
import Autofix.Proofs.Disk.Unlinked

/-!
# Reading what has been written

A text can be written to a file, or to a name that a folder does not have (`exists_writeText_iff`),
and is read from there (`readText_eq_of_writeText`). A file that is new stands in a folder
(`Tree.Free`), so that no link is on the way from the root to it, and the links on the way of a path
lead where they led before.
-/

namespace Autofix.Disk

variable {root : Tree} {here place other : Place} {parts : List String} {content : Content}

/-! ### Putting a node where none is -/

namespace Tree

/-- There is a folder at a place. -/
def HasFolder (root : Tree) (place : Place) : Prop :=
  ∃ entries, root.get? place = some (.folder entries)

/-- A name that a folder does not have. -/
def Free (root : Tree) (place : Place) : Prop :=
  root.get? place = none ∧ ∃ dir name, place = dir ++ [name] ∧ root.HasFolder dir

theorem hasFolder_of_isFolder {t : Tree} (hget : root.get? place = some t) (h : t.isFolder) :
    root.HasFolder place := by
  cases t with
  | file | link => cases h
  | folder entries => exact ⟨entries, hget⟩

/-- Where something is, there are folders above it. -/
theorem hasFolder_of_get? {t : Tree} {name : String} (hget : root.get? (place ++ [name]) = some t) :
    root.HasFolder place := by
  obtain ⟨u, hu, hbelow⟩ := Option.bind_eq_some_iff.1 (get?_append .. ▸ hget)
  exact hasFolder_of_isFolder hu (isFolder_of_get? hbelow (by simp))

/-- Folders stay folders, and what is not on the way to the node stays as it is. -/
theorem get?_put_of_none {t u : Tree} (hplace : root.get? place = none)
    (hother : root.get? other = some u) :
    (u.isFolder → (root.put place t).HasFolder other) ∧
    (¬other <+: place → (root.put place t).get? other = some u) := by
  induction place generalizing root other with
  | nil => simp [get?] at hplace
  | cons name rest ih =>
    cases other with
    | nil =>
      obtain rfl : root = u := by rwa [get?, Option.some.injEq] at hother
      refine ⟨fun hfolder => ?_, fun hnot => absurd List.nil_prefix hnot⟩
      cases root with
      | file | link => cases hfolder
      | folder entries => exact ⟨_, rfl⟩
    | cons name' rest' =>
      cases root with
      | file | link => cases hother
      | folder entries =>
        obtain ⟨w, hw, hu⟩ := Option.bind_eq_some_iff.1 hother
        simp only [HasFolder, put, get?, lookup_putEntry]
        -- The other node is in the same entry, or in one that is kept.
        split_ifs with hname
        · subst hname
          have hfree : w.get? rest = none := by simpa [get?, hw] using hplace
          simp only [hw, Option.getD_some, Option.bind_some]
          exact ⟨(ih hfree hu).1, fun hnot => (ih hfree hu).2 fun hpre =>
            hnot ((List.prefix_cons_inj _).2 hpre)⟩
        · rw [hw, Option.bind_some]
          exact ⟨hasFolder_of_isFolder hu, fun _ => hu⟩

/-- Where a link in a folder starts from is in a folder. -/
theorem HasFolder.start {here : Place} (h : root.HasFolder here) (target : Path) :
    root.HasFolder (if target.isAbsolute then [] else here) := by
  split_ifs
  · exact exists_folder_above List.nil_prefix h
  · exact h

/-- On the way to a free place there are folders only. -/
theorem Free.not_prefix {target : String} (h : root.Free place)
    (hother : root.get? other = some (.link target)) : ¬other <+: place := by
  obtain ⟨hnone, dir, name, rfl, hdir⟩ := h
  intro hpre
  rcases List.prefix_concat_iff.1 hpre with rfl | hpre
  · rw [hnone] at hother
    cases hother
  · obtain ⟨entries, hfolder⟩ := exists_folder_above hpre hdir
    rw [hother] at hfolder
    cases hfolder

end Tree

/-! ### Looking up a path to a new file -/

variable {jump jump' : Place → List String → Except IoError Found} {last : Bool}

/-- From a folder, a path that leads to nothing leads to a name that a folder does not have. -/
theorem free_of_follow (hjump : ∀ here parts, root.HasFolder here →
      jump here parts = .ok (.missing place) → root.Free place)
    (hhere : root.HasFolder here) (h : follow root last jump here parts = .ok (.missing place)) :
    root.Free place := by
  fun_induction follow root last jump here parts with
  | case1 | case2 | case5 | case7 | case8 | case9 | case11 => cases h
  | case3 _ _ _ _ ih => exact ih hhere h
  | case4 here _ _ ih => exact ih (Tree.exists_folder_above (List.dropLast_prefix here) hhere) h
  | case6 here part _ _ _ there hget =>
    obtain rfl := Found.missing.inj (Except.ok.inj h)
    exact ⟨hget, here, part, rfl, hhere⟩
  | case10 _ _ _ _ _ _ there entries hget ih => exact ih ⟨entries, hget⟩ h
  | case12 => exact hjump _ _ (hhere.start _) h

/-- The path to a new file leads to the file once it is there. -/
theorem follow_put (hfree : ∀ here parts, root.HasFolder here →
      jump here parts = .ok (.missing place) → root.Free place)
    (hjump : ∀ here parts, root.HasFolder here → jump here parts = .ok (.missing place) →
      jump' here parts = .ok (.node place (.file content)))
    (h : follow root true jump here parts = .ok (.missing place)) :
    follow (root.put place (.file content)) true jump' here parts =
      .ok (.node place (.file content)) := by
  fun_induction follow root true jump here parts with
  | case1 | case2 | case5 | case7 | case8 | case9 | case11 => cases h
  | case3 _ _ _ hblank ih =>
    rw [follow, if_pos hblank]
    exact ih h
  | case4 _ _ hblank ih =>
    rw [follow, if_neg hblank, if_pos rfl]
    exact ih h
  | case6 here part hblank hup hsize there hget =>
    obtain rfl := Found.missing.inj (Except.ok.inj h)
    rw [follow, if_neg hblank, if_neg hup, if_neg hsize]
    dsimp only
    rw [Tree.get?_put_self]
    rfl
  | case10 here part rest hblank hup hsize there entries hget ih =>
    -- The new file comes below this folder, which stays one.
    have hplace := free_of_follow hfree ⟨entries, hget⟩ h
    obtain ⟨entries', hput⟩ := (Tree.get?_put_of_none (t := .file content) hplace.1 hget).1 rfl
    rw [follow, if_neg hblank, if_neg hup, if_neg hsize]
    dsimp only
    rw [hput]
    exact ih h
  | case12 here part rest hblank hup hsize there target hget =>
    have hhere := (Tree.hasFolder_of_get? hget).start ⟨target⟩
    -- The new file comes below no link, and so the link stays what it is.
    have hplace := hfree _ _ hhere h
    have hput := (Tree.get?_put_of_none (t := .file content) hplace.1 hget).2
      (hplace.not_prefix hget)
    rw [follow, if_neg hblank, if_neg hup, if_neg hsize]
    dsimp only
    rw [hput]
    simpa using hjump _ _ hhere h

theorem free_of_resolve {links : Nat} (hhere : root.HasFolder here)
    (h : resolve root last links here parts = .ok (.missing place)) : root.Free place := by
  induction links generalizing here parts with
  | zero => exact free_of_follow (fun _ _ _ h => by cases h) hhere h
  | succ links ih => exact free_of_follow (fun _ _ hhere h => ih hhere h) hhere h

theorem resolve_put {links : Nat}
    (h : resolve root true links here parts = .ok (.missing place)) :
    resolve (root.put place (.file content)) true links here parts =
      .ok (.node place (.file content)) := by
  induction links generalizing here parts with
  | zero => exact follow_put (fun _ _ _ h => by cases h) (fun _ _ _ h => by cases h) h
  | succ links ih =>
    exact follow_put (fun _ _ hhere h => free_of_resolve hhere h) (fun _ _ _ h => ih h) h

/-! ### Reading after writing -/

variable {d d' : Disk} {p : Path} {s : String}

theorem find_put (h : d.find true p = .ok (.missing place)) (content : Content) :
    ({ d with root := d.root.put place (.file content) } : Disk).find true p =
      .ok (.node place (.file content)) := by
  unfold find at h ⊢
  split_ifs at h ⊢
  · exact resolve_put h
  · exact resolve_put h

/-- A path leads to a file, or to a name that a folder does not have. -/
def Writable (d : Disk) (p : Path) : Prop :=
  d.isFile p ∨ ∃ place, d.find true p = .ok (.missing place)

/-- These are the paths that a text can be written to. -/
theorem exists_writeText_iff : (∃ d', d.writeText p s = .ok d') ↔ d.Writable p := by
  constructor
  · rintro ⟨d', h⟩
    cases hfind : d.find true p with
    | error e =>
      simp only [writeText, hfind] at h
      split at h <;> cases h
    | ok found =>
      cases found with
      | missing place => exact .inr ⟨place, hfind⟩
      | node place t =>
        cases t with
        | file content => exact .inl (isFile_iff.2 ⟨place, content, stat_eq_ok_iff.2 hfind⟩)
        | link | folder =>
          simp only [writeText, hfind] at h
          cases h
  · rintro (hfile | ⟨place, hfind⟩)
    · exact exists_writeText hfile s
    · exact ⟨_, by rw [writeText, hfind]; rfl⟩

/-- What has been written to a file is read from it. -/
theorem readText_eq_of_writeText (h : d.writeText p s = .ok d') : d'.readText p = .ok s := by
  rcases exists_writeText_iff.1 ⟨d', h⟩ with hfile | ⟨place, hfind⟩
  · exact readText_of_writeText hfile h
  · simp only [writeText, hfind] at h
    obtain rfl := Except.ok.inj h
    rw [readText, stat_eq_ok_iff.2 (find_put hfind _)]
    rfl

end Autofix.Disk
