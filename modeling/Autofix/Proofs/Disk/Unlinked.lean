import Autofix.Proofs.Disk.Descend

/-!
# Disks without links

In a tree without links, where the parts of a path lead is a matter of folders and names
(`Tree.LeadsTo`, `resolve_eq_ok_iff`).

* `place_eq_of_stat`: a path that leads to something leads to the place that its text tells
  (`Disk.placeOf`);
* `Tree.LeadsTo.concat_iff`: a file is reached through the folder that it is in;
* `Tree.LeadsTo.saying_iff`: blank parts do not matter on the way to a folder.
-/

namespace Autofix.Disk

open Autofix.Path (Component)

/-! ### Places that texts tell -/

/-- Where a component of a path leads from a place. -/
def goTo (here : Place) : Component → Place
  | .root => []
  | .here => here
  | .up => here.dropLast
  | .name s => here ++ [s]

/-- Where components lead from a place, one after the other. -/
def placeFrom (here : Place) (cs : List Component) : Place := cs.foldl goTo here

/-- The place that a path tells by its text. -/
def placeOf (d : Disk) (p : Path) : Place := placeFrom d.current p.components

theorem placeFrom_append (here : Place) (cs ds : List Component) :
    placeFrom here (cs ++ ds) = placeFrom (placeFrom here cs) ds := List.foldl_append

theorem placeFrom_map_name (here : Place) (names : List String) :
    placeFrom here (names.map .name) = here ++ names := by
  induction names generalizing here with
  | nil => exact (List.append_nil here).symm
  | cons name names ih =>
    rw [List.append_cons]
    exact ih (here ++ [name])

/-- The component that a part of a path stands for. -/
def componentOf (part : String) : Component := Path.partComponent part.toList

theorem componentOf_of_ne {name : String} (hup : name ≠ "..") : componentOf name = .name name := by
  have hdots : name.toList ≠ ['.', '.'] := fun hdots => hup (String.toList_inj.1 hdots)
  rw [componentOf, Path.partComponent, if_neg hdots, String.ofList_toList]

theorem isBlank_toList (part : String) : Path.isBlank part.toList = isBlank part := by
  have hempty : part.toList = [] ↔ part = "" := String.toList_eq_nil_iff
  have hdot : part.toList = ['.'] ↔ part = "." := by
    rw [← String.toList_inj]
    rfl
  simp only [Path.isBlank, isBlank, hempty, hdot]

theorem saying_cons_of_blank {part : String} (h : isBlank part) (rest : List String) :
    saying (part :: rest) = saying rest := List.filter_cons_of_neg (by simp [h])

theorem saying_cons_of_not_blank {part : String} (h : isBlank part = false) (rest : List String) :
    saying (part :: rest) = part :: saying rest := List.filter_cons_of_pos (by simp [h])

/-- The components of a path are those of the parts that say something, behind its start. -/
theorem components_eq_componentOf (p : Path) :
    p.components = p.split.1.components ++ (saying (parts p.text)).map componentOf := by
  rw [Path.components_eq, parts_text, saying_map_ofList, List.map_map]
  congr 1
  refine List.map_congr_left fun part _ => ?_
  rw [Function.comp_apply, componentOf, String.toList_ofList]

theorem placeFrom_start (here : Place) (p : Path) :
    placeFrom here p.split.1.components = if p.isAbsolute then [] else here := by
  cases habsolute : p.isAbsolute with
  | true =>
    rw [Path.isAbsolute_iff.1 habsolute]
    rfl
  | false =>
    have hlead : p.split.1 ≠ .root := fun hroot =>
      Bool.false_ne_true (habsolute.symm.trans (Path.isAbsolute_iff.2 hroot))
    cases hsplit : p.split.1 with
    | root => exact absurd hsplit hlead
    | here | none => rfl

/-! ### Where parts lead -/

namespace Tree

/-- There are no links in a tree. -/
def LinkFree (t : Tree) : Prop := ∀ place target, t.get? place ≠ some (.link target)

theorem linkFree_file (content : Content) : (file content).LinkFree := by
  intro place target h
  cases place with
  | nil => simp [get?] at h
  | cons => simp [get?] at h

theorem linkFree_folder {entries : List (String × Tree)}
    (h : ∀ entry ∈ entries, entry.2.LinkFree) : (folder entries).LinkFree := by
  intro place target hget
  cases place with
  | nil => simp [get?] at hget
  | cons name place =>
    rw [get?, Option.bind_eq_some_iff] at hget
    obtain ⟨u, hu, hget⟩ := hget
    obtain ⟨front, tail, rfl, -⟩ := List.lookup_eq_some_iff.1 hu
    exact h (name, u) (by simp) place target hget

/-- From a place, parts lead to a node at a place: through folders only, up and down, and with names
    that are not too long. -/
inductive LeadsTo (root : Tree) : Place → List String → Place → Tree → Prop
  | arrived {here : Place} {t : Tree} (hget : root.get? here = some t) : LeadsTo root here [] here t
  | blank {here place : Place} {part : String} {rest : List String} {t : Tree}
      (hblank : isBlank part) (h : LeadsTo root here rest place t) :
      LeadsTo root here (part :: rest) place t
  | up {here place : Place} {rest : List String} {t : Tree}
      (h : LeadsTo root here.dropLast rest place t) : LeadsTo root here (".." :: rest) place t
  | file {here : Place} {name : String} {content : Content} (hblank : isBlank name = false)
      (hup : name ≠ "..") (hsize : name.utf8ByteSize ≤ 255)
      (hget : root.get? (here ++ [name]) = some (.file content)) :
      LeadsTo root here [name] (here ++ [name]) (.file content)
  | into {here place : Place} {name : String} {rest : List String} {t : Tree}
      {entries : List (String × Tree)} (hblank : isBlank name = false) (hup : name ≠ "..")
      (hsize : name.utf8ByteSize ≤ 255) (hget : root.get? (here ++ [name]) = some (.folder entries))
      (h : LeadsTo root (here ++ [name]) rest place t) : LeadsTo root here (name :: rest) place t

variable {root t : Tree} {here place : Place} {parts front tail : List String} {name : String}
  {content : Content}

/-- Names that are too long lead nowhere. -/
theorem LeadsTo.size_le (h : LeadsTo root here parts place t) :
    ∀ part ∈ parts, isBlank part = false → part ≠ ".." → part.utf8ByteSize ≤ 255 := by
  induction h with
  | arrived _ => exact List.forall_mem_nil _
  | blank hblank _ ih =>
    refine List.forall_mem_cons.2 ⟨fun hnot => ?_, ih⟩
    exact absurd (hblank.symm.trans hnot) (by decide)
  | up _ ih => exact List.forall_mem_cons.2 ⟨fun _ hne => absurd rfl hne, ih⟩
  | file _ _ hsize _ => exact List.forall_mem_singleton.2 fun _ _ => hsize
  | into _ _ hsize _ _ ih => exact List.forall_mem_cons.2 ⟨fun _ _ => hsize, ih⟩

theorem LeadsTo.of_blank (hfront : ∀ part ∈ front, isBlank part)
    (h : LeadsTo root here parts place t) : LeadsTo root here (front ++ parts) place t := by
  induction front with
  | nil => exact h
  | cons part front ih =>
    obtain ⟨hpart, hfront⟩ := List.forall_mem_cons.1 hfront
    exact .blank hpart (ih hfront)

/-- Names of entries lead down to what is there, if none of them is too long. -/
theorem leadsTo_names {names : List String} (hroot : root.LinkFree)
    (hnames : Path.AreEntries names) (hsize : ∀ name ∈ names, name.utf8ByteSize ≤ 255)
    (hget : root.get? (here ++ names) = some t) : root.LeadsTo here names (here ++ names) t := by
  induction names generalizing here with
  | nil =>
    rw [List.append_nil] at hget ⊢
    exact .arrived hget
  | cons name names ih =>
    obtain ⟨⟨-, hblank, hup⟩, hnames⟩ := List.forall_mem_cons.1 hnames
    obtain ⟨hname, hsize⟩ := List.forall_mem_cons.1 hsize
    rw [isBlank_toList] at hblank
    rw [List.append_cons] at hget ⊢
    obtain ⟨u, hu, hbelow⟩ := Option.bind_eq_some_iff.1 (get?_append .. ▸ hget)
    cases u with
    | link target => exact absurd hu (hroot _ _)
    | folder entries => exact .into hblank hup hname hu (ih hnames hsize hget)
    | file content =>
      -- There is nothing below a file, so this is the last name.
      cases names with
      | cons next names => cases hbelow
      | nil =>
        obtain rfl : Tree.file content = t := Option.some.inj (by rwa [get?] at hbelow)
        rw [List.append_nil]
        exact .file hblank hup hname hu

/-- What parts lead to is at the place that they tell. -/
theorem LeadsTo.place_eq (h : LeadsTo root here parts place t) :
    place = placeFrom here ((saying parts).map componentOf) := by
  induction h with
  | arrived _ => rfl
  | blank hblank _ ih => rwa [saying_cons_of_blank hblank]
  | up _ ih =>
    rw [saying_cons_of_not_blank (by decide), List.map_cons]
    exact ih
  | file hblank hup _ _ =>
    rw [saying_cons_of_not_blank hblank, List.map_cons, componentOf_of_ne hup]
    rfl
  | into hblank hup _ _ _ ih =>
    rw [saying_cons_of_not_blank hblank, List.map_cons, componentOf_of_ne hup]
    exact ih

theorem leadsTo_cons_iff : root.LeadsTo here (name :: tail) place t ↔
    if isBlank name then root.LeadsTo here tail place t
    else if name = ".." then root.LeadsTo here.dropLast tail place t
    else name.utf8ByteSize ≤ 255 ∧
      ((∃ content, root.get? (here ++ [name]) = some (.file content) ∧ tail = [] ∧
          place = here ++ [name] ∧ t = .file content) ∨
        ∃ entries, root.get? (here ++ [name]) = some (.folder entries) ∧
          root.LeadsTo (here ++ [name]) tail place t) := by
  constructor
  · intro h
    cases h with
    | blank hblank h => rwa [if_pos hblank]
    | up h => rwa [if_neg (by decide), if_pos rfl]
    | file hblank hup hsize hget =>
      rw [if_neg (by simp [hblank]), if_neg hup]
      exact ⟨hsize, .inl ⟨_, hget, rfl, rfl, rfl⟩⟩
    | into hblank hup hsize hget h =>
      rw [if_neg (by simp [hblank]), if_neg hup]
      exact ⟨hsize, .inr ⟨_, hget, h⟩⟩
  · intro h
    split_ifs at h with hblank hup
    · exact .blank hblank h
    · exact hup ▸ .up h
    · obtain ⟨hsize, ⟨content, hget, rfl, rfl, rfl⟩ | ⟨entries, hget, h⟩⟩ := h
      · exact .file (Bool.eq_false_iff.2 hblank) hup hsize hget
      · exact .into (Bool.eq_false_iff.2 hblank) hup hsize hget h

/-- Blank parts do not matter on the way. -/
theorem LeadsTo.saying (h : root.LeadsTo here parts place t) :
    root.LeadsTo here (saying parts) place t := by
  induction h with
  | arrived hget => exact .arrived hget
  | blank hblank _ ih => rwa [saying_cons_of_blank hblank]
  | up _ ih =>
    rw [saying_cons_of_not_blank (by decide)]
    exact .up ih
  | file hblank hup hsize hget =>
    rw [saying_cons_of_not_blank hblank]
    exact .file hblank hup hsize hget
  | into hblank hup hsize hget _ ih =>
    rw [saying_cons_of_not_blank hblank]
    exact .into hblank hup hsize hget ih

/-- They do not matter at all if a folder is what parts lead to. -/
theorem LeadsTo.saying_iff (hfolder : t.isFolder) :
    root.LeadsTo here (Disk.saying parts) place t ↔ root.LeadsTo here parts place t := by
  refine ⟨fun h => ?_, LeadsTo.saying⟩
  induction parts generalizing here with
  | nil => exact h
  | cons part parts ih =>
    cases hblank : isBlank part with
    | true =>
      rw [saying_cons_of_blank hblank] at h
      exact .blank hblank (ih h)
    | false =>
      rw [saying_cons_of_not_blank hblank, leadsTo_cons_iff] at h
      rw [leadsTo_cons_iff]
      simp only [hblank, Bool.false_eq_true, if_false] at h ⊢
      split_ifs at h ⊢ with hup
      · exact ih h
      · refine ⟨h.1, h.2.imp ?_ ?_⟩
        · -- Nothing that is a folder is a file.
          rintro ⟨content, -, -, -, rfl⟩
          cases hfolder
        · exact fun ⟨entries, hget, h⟩ => ⟨entries, hget, ih h⟩

/-- Parts lead to a file through the folder that it is in. -/
theorem LeadsTo.concat_iff (hblank : isBlank name = false) (hup : name ≠ "..")
    (hsize : name.utf8ByteSize ≤ 255) :
    root.LeadsTo here (front ++ [name]) place (.file content) ↔
      ∃ folder entries, root.LeadsTo here front folder (.folder entries) ∧
        place = folder ++ [name] ∧ root.get? place = some (.file content) := by
  constructor
  · intro h
    induction front generalizing here with
    | nil =>
      rw [List.nil_append, leadsTo_cons_iff, if_neg (by simp [hblank]), if_neg hup] at h
      obtain ⟨-, ⟨content', hget, -, rfl, hfile⟩ | ⟨entries, hget, h⟩⟩ := h
      · -- Only a folder has the file below it.
        obtain ⟨u, hu, hbelow⟩ := Option.bind_eq_some_iff.1 (get?_append .. ▸ hget)
        have hfolder := isFolder_of_get? hbelow (by simp)
        cases u with
        | file | link => cases hfolder
        | folder entries => exact ⟨here, entries, .arrived hu, rfl, hfile ▸ hget⟩
      · cases h with
        | arrived hfile => cases hget.symm.trans hfile
    | cons part front ih =>
      rw [List.cons_append, leadsTo_cons_iff] at h
      simp only [leadsTo_cons_iff]
      split_ifs at h ⊢
      · exact ih h
      · exact ih h
      · obtain ⟨hpart, ⟨_, -, hnil, -⟩ | ⟨entries, hget, h⟩⟩ := h
        · simp at hnil
        · obtain ⟨folder, entries', hfront, heq⟩ := ih h
          exact ⟨folder, entries', ⟨hpart, .inr ⟨entries, hget, hfront⟩⟩, heq⟩
  · rintro ⟨folder, entries, hfront, rfl, hget⟩
    -- On the way to the folder, which does not end at a file.
    generalize hnode : Tree.folder entries = t at hfront
    induction hfront with
    | arrived _ => exact .file hblank hup hsize hget
    | blank hblank _ ih => exact .blank hblank (ih hget hnode)
    | up _ ih => exact .up (ih hget hnode)
    | file => cases hnode
    | into hblank hup hsize hthere _ ih => exact .into hblank hup hsize hthere (ih hget hnode)

/-- Above a folder there are only folders. -/
theorem exists_folder_above {above : Place} (hpre : above <+: here)
    (h : ∃ entries, root.get? here = some (.folder entries)) :
    ∃ entries, root.get? above = some (.folder entries) := by
  obtain ⟨entries, hget⟩ := h
  obtain ⟨below, rfl⟩ := hpre
  obtain ⟨u, hu, hbelow⟩ := Option.bind_eq_some_iff.1 (get?_append .. ▸ hget)
  rcases eq_or_ne below [] with rfl | hne
  · rw [get?] at hbelow
    exact ⟨entries, hu.trans hbelow⟩
  · have hfolder := isFolder_of_get? hbelow hne
    cases u with
    | file | link => cases hfolder
    | folder entries => exact ⟨entries, hu⟩

/-- On the way from a folder there are only folders. -/
theorem LeadsTo.exists_folder (hhere : ∃ entries, root.get? here = some (.folder entries))
    (h : root.LeadsTo here (front ++ tail) place t) (hend : tail ≠ [] ∨ t.isFolder) :
    ∃ folder entries, root.LeadsTo here front folder (.folder entries) := by
  induction front generalizing here with
  | nil =>
    obtain ⟨entries, hget⟩ := hhere
    exact ⟨here, entries, .arrived hget⟩
  | cons part front ih =>
    rw [List.cons_append, leadsTo_cons_iff] at h
    simp only [leadsTo_cons_iff]
    split_ifs at h ⊢
    · exact ih hhere h
    · exact ih (exists_folder_above (List.dropLast_prefix here) hhere) h
    · obtain ⟨hpart, ⟨content, -, hnil, -, rfl⟩ | ⟨entries, hget, h⟩⟩ := h
      · rcases hend with hne | hfolder
        · exact absurd (List.append_eq_nil_iff.1 hnil).2 hne
        · cases hfolder
      · obtain ⟨folder, entries', hfront⟩ := ih ⟨entries, hget⟩ h
        exact ⟨folder, entries', hpart, .inr ⟨entries, hget, hfront⟩⟩

end Tree

variable {root t : Tree} {here place : Place} {parts : List String} {last : Bool} {links : Nat}
  {jump : Place → List String → Except IoError Found} {d : Disk} {p : Path}

theorem follow_eq_ok_iff (hroot : root.LinkFree) :
    follow root last jump here parts = .ok (.node place t) ↔ root.LeadsTo here parts place t := by
  constructor
  · intro h
    fun_induction follow root last jump here parts with
    | case1 here t hget =>
      obtain ⟨rfl, rfl⟩ := Found.node.inj (Except.ok.inj h)
      exact .arrived hget
    | case3 _ _ _ hblank ih => exact .blank hblank (ih h)
    | case4 _ _ _ ih => exact .up (ih h)
    | case8 here part hblank hup hsize there content hget =>
      obtain ⟨rfl, rfl⟩ := Found.node.inj (Except.ok.inj h)
      exact .file (by simpa using hblank) hup (Nat.le_of_not_lt hsize) hget
    | case10 here part rest hblank hup hsize there entries hget ih =>
      exact .into (by simpa using hblank) hup (Nat.le_of_not_lt hsize) hget (ih h)
    | case11 =>
      -- Without links the cases of a link do not come up.
      exact absurd ‹_› (hroot _ _)
    | case12 => exact absurd ‹_› (hroot _ _)
    | case2 | case5 | case6 | case7 | case9 => cases h
  · intro h
    induction h with
    | arrived hget => rw [follow, hget]
    | blank hblank _ ih => rw [follow, if_pos hblank, ih]
    | up _ ih => rw [follow, if_neg (by decide), if_pos rfl, ih]
    | file hblank hup hsize hget =>
      rw [follow, hblank, if_neg Bool.false_ne_true, if_neg hup, if_neg (Nat.not_lt.2 hsize)]
      simp [hget]
    | into hblank hup hsize hget _ ih =>
      rw [follow, hblank, if_neg Bool.false_ne_true, if_neg hup, if_neg (Nat.not_lt.2 hsize)]
      simp [hget, ih]

theorem resolve_eq_ok_iff (hroot : root.LinkFree) :
    resolve root last links here parts = .ok (.node place t) ↔ root.LeadsTo here parts place t := by
  cases links with
  | zero => exact follow_eq_ok_iff hroot
  | succ links => exact follow_eq_ok_iff hroot

/-- What can be looked up at all: a path that is not empty, not too long and without zeros. -/
def CanLookUp (p : Path) : Prop := '\x00' ∉ p.text.toList ∧ p ≠ ⟨""⟩ ∧ p.isShort

/-- Where a path leads on a disk without links. -/
theorem stat_eq_ok_iff_leadsTo (hlinks : d.root.LinkFree) : d.stat p = .ok (place, t) ↔
    CanLookUp p ∧
      d.root.LeadsTo (if p.isAbsolute then [] else d.current) (Disk.parts p.text) place t := by
  have hempty : p.text = "" ↔ p = ⟨""⟩ := by cases p; simp
  have hresolve : ∀ here parts, resolve d.root true linkLimit here parts = .ok (.node place t) ↔
      d.root.LeadsTo here parts place t := fun _ _ => resolve_eq_ok_iff hlinks
  rw [stat_eq_ok_iff, find, ← hresolve]
  simp only [hempty, List.contains_iff_mem, CanLookUp]
  split_ifs with hnul hnone hlong
  all_goals simp_all

/-- What a path leads to is at the place that its text tells. -/
theorem place_eq_of_stat (hlinks : d.root.LinkFree) (h : d.stat p = .ok (place, t)) :
    place = d.placeOf p := by
  rw [placeOf, components_eq_componentOf, placeFrom_append, placeFrom_start]
  exact ((stat_eq_ok_iff_leadsTo hlinks).1 h).2.place_eq

end Autofix.Disk
