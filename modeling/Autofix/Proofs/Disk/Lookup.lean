import Autofix.Disk
import Autofix.Proofs.Path.Parts

/-!
# Looking paths up

A path leads to the same whether or not blank parts stand between those that say something, as long
as it is short enough to be looked up (`Disk.find_congr`). So of the folder in front of a path only
the components matter (`Path.Respells.find_eq`).
-/

namespace Autofix

namespace Disk

variable {root : Tree} {last : Bool} {jump : Place → List String → Except IoError Found}
  {front front' tail : List String}

/-! ### Blank parts -/

/-- The parts that say something. -/
def saying (parts : List String) : List String := parts.filter fun part => !isBlank part

/-- Parts that differ in blank ones, none of which is the last part. -/
def Respelled (parts parts' : List String) : Prop :=
  ∃ front front' tail, tail ≠ [] ∧ saying front = saying front' ∧ parts = front ++ tail ∧
    parts' = front' ++ tail

theorem Respelled.append_left {parts parts' : List String} (h : Respelled parts parts')
    (more : List String) : Respelled (more ++ parts) (more ++ parts') := by
  obtain ⟨front, front', tail, hne, hsaying, rfl, rfl⟩ := h
  refine ⟨more ++ front, more ++ front', tail, hne, ?_, ?_, ?_⟩
  · simp only [saying, List.filter_append] at hsaying ⊢
    rw [hsaying]
  · rw [List.append_assoc]
  · rw [List.append_assoc]

theorem follow_append_of_blank (h : ∀ part ∈ front, isBlank part) (here : Place)
    (parts : List String) :
    follow root last jump here (front ++ parts) = follow root last jump here parts := by
  induction front with
  | nil => rfl
  | cons part front ih =>
    rw [List.cons_append, follow, if_pos (h part List.mem_cons_self),
      ih fun part hpart => h part (List.mem_cons_of_mem _ hpart)]

/-- Blank parts are passed over, also on the way into links. -/
theorem follow_respelled (hjump : ∀ here parts parts', Respelled parts parts' →
      jump here parts = jump here parts') (htail : tail ≠ [])
    (hsaying : saying front = saying front') (here : Place) :
    follow root last jump here (front ++ tail) = follow root last jump here (front' ++ tail) := by
  induction front generalizing front' here with
  | nil =>
    have hblank : ∀ part ∈ front', isBlank part := by
      simpa [saying, List.filter_eq_nil_iff] using hsaying.symm
    rw [follow_append_of_blank hblank, List.nil_append]
  | cons part front ih =>
    cases hpart : isBlank part with
    | true =>
      have hsaying' : saying front = saying front' := by
        simpa [saying, hpart] using hsaying
      rw [List.cons_append, follow, if_pos hpart, ih hsaying']
    | false =>
      have hsaying' : saying front' = part :: saying front := by
        simpa [saying, hpart] using hsaying.symm
      -- The other spelling says the same part after some blank ones.
      obtain ⟨blanks, rest, rfl, hblanks, -, hrest⟩ := List.filter_eq_cons_iff.1 hsaying'
      have hstep := ih hrest.symm
      have hne : front ++ tail ≠ [] := List.append_ne_nil_of_right_ne_nil front htail
      have hne' : rest ++ tail ≠ [] := List.append_ne_nil_of_right_ne_nil rest htail
      have hskip : follow root last jump here (blanks ++ (part :: rest ++ tail)) = _ :=
        follow_append_of_blank (by simpa using hblanks) here _
      rw [List.append_assoc, hskip, List.cons_append, List.cons_append, follow, follow]
      simp only [hpart, Bool.false_eq_true, if_false, hne, hne', false_and, hstep]
      cases root.get? (here ++ [part]) with
      | none => rfl
      | some t =>
        cases t with
        | file content => rfl
        | folder entries => rfl
        | link target =>
          have hlink := hjump (if (Path.mk target).isAbsolute then [] else here) _ _
            (Respelled.append_left ⟨front, rest, tail, htail, hrest.symm, rfl, rfl⟩ (parts target))
          dsimp only
          rw [hlink]

theorem resolve_respelled (links : Nat) {parts parts' : List String} (h : Respelled parts parts')
    (here : Place) : resolve root last links here parts = resolve root last links here parts' := by
  induction links generalizing here parts parts' with
  | zero =>
    obtain ⟨front, front', tail, htail, hsaying, rfl, rfl⟩ := h
    exact follow_respelled (fun _ _ _ _ => rfl) htail hsaying here
  | succ links ih =>
    obtain ⟨front, front', tail, htail, hsaying, rfl, rfl⟩ := h
    exact follow_respelled (fun here _ _ h => ih h here) htail hsaying here

/-! ### Paths and their parts -/

theorem parts_text (p : Path) : parts p.text = p.written.map String.ofList := rfl

theorem saying_map_ofList (parts : List (List Char)) :
    saying (parts.map String.ofList) = (Path.saying parts).map String.ofList := by
  rw [saying, Path.saying, List.filter_map]
  congr 1
  refine List.filter_congr fun part _ => ?_
  have hempty : String.ofList part = "" ↔ part = [] := by
    rw [← String.toList_inj, String.toList_ofList]
    rfl
  have hdot : String.ofList part = "." ↔ part = ['.'] := by
    rw [← String.toList_inj, String.toList_ofList]
    rfl
  simp [isBlank, Path.isBlank, hempty, hdot]

theorem mem_joinParts_iff {c : Char} (hslash : c ≠ '/') (hdot : c ≠ '.')
    (parts : List (List Char)) :
    c ∈ Path.joinParts parts ↔ ∃ part ∈ Path.saying parts, c ∈ part := by
  induction parts with
  | nil => simp [Path.joinParts]
  | cons part rest ih =>
    have hpart : c ∈ part → Path.isBlank part = false := fun hc => by
      by_contra hblank
      rcases Path.isBlank_iff.1 (Bool.not_eq_false _ ▸ hblank) with rfl | rfl
      · exact List.not_mem_nil hc
      · exact hdot (List.mem_singleton.1 hc)
    have hcons : (∃ part' ∈ Path.saying (part :: rest), c ∈ part') ↔
        c ∈ part ∨ ∃ part' ∈ Path.saying rest, c ∈ part' := by
      cases hblank : Path.isBlank part with
      | false => simp [Path.saying, hblank]
      | true =>
        have hnot : c ∉ part := fun hc => Bool.false_ne_true ((hpart hc).symm.trans hblank)
        simp [Path.saying, hblank, hnot]
    rw [hcons, ← ih]
    cases rest with
    | nil => simp [Path.joinParts]
    | cons next rest => simp [Path.joinParts, hslash]

/-- A character that is no separator stands in one of the parts that say something, or is a dot. -/
theorem mem_text_iff {c : Char} (hslash : c ≠ '/') (hdot : c ≠ '.') (p : Path) :
    c ∈ p.text.toList ↔ ∃ part ∈ Path.saying p.written, c ∈ part := by
  rw [← mem_joinParts_iff hslash hdot, Path.written, Path.joinParts_fields]

/-- Short paths are looked up in the same way if they start at the same place and differ in blank
    parts only, none of which is the last part. -/
theorem find_respelled {p p' : Path} (habsolute : p.isAbsolute = p'.isAbsolute)
    (hempty : p.text = "" ↔ p'.text = "") (hsaying : Path.saying p.written = Path.saying p'.written)
    (hparts : Respelled (parts p.text) (parts p'.text)) (hshort : p.isShort) (hshort' : p'.isShort)
    (d : Disk) (last : Bool) : d.find last p = d.find last p' := by
  have hnul : p.text.toList.contains '\x00' = p'.text.toList.contains '\x00' := by
    rw [Bool.eq_iff_iff, List.contains_iff_mem, List.contains_iff_mem,
      mem_text_iff (by decide) (by decide), mem_text_iff (by decide) (by decide), hsaying]
  simp only [find, hnul, hempty, habsolute, hshort, hshort', resolve_respelled _ hparts]

/-- Paths that say the same are looked up in the same way if they are short and differ in blank
    parts only, none of which is the last part. -/
theorem find_congr {p p' : Path} (h : p.components = p'.components)
    (hparts : Respelled (parts p.text) (parts p'.text)) (hshort : p.isShort) (hshort' : p'.isShort)
    (d : Disk) (last : Bool) : d.find last p = d.find last p' := by
  obtain ⟨hlead, hsaying⟩ := Path.components_eq_iff.1 h
  have habsolute : p.isAbsolute = p'.isAbsolute := by
    rw [Bool.eq_iff_iff, Path.isAbsolute_iff, Path.isAbsolute_iff, hlead]
  have hempty : p.text = "" ↔ p'.text = "" := by
    have htext : ∀ q : Path, q.text = "" ↔ q.components = [] := fun q => by
      rw [Path.components_eq_nil_iff]
      cases q
      simp
    rw [htext, htext, h]
  exact find_respelled habsolute hempty hsaying hparts hshort hshort' d last

end Disk

/-! ### Folders in front of a path -/

/-- Two paths are the same one below folders that say the same. -/
def Path.Respells (p p' : Path) : Prop :=
  ∃ dir dir' r : Path, dir.components = dir'.components ∧ p = dir.join r ∧ p' = dir'.join r

namespace Path.Respells

variable {p p' : Path}

theorem refl (p : Path) : Respells p p :=
  ⟨⟨""⟩, ⟨""⟩, p, rfl, (empty_join p).symm, (empty_join p).symm⟩

theorem components_eq (h : Respells p p') : p.components = p'.components := by
  obtain ⟨dir, dir', r, hdir, rfl, rfl⟩ := h
  exact components_join_congr hdir r

/-- Of the folder in front of a path only the components matter, as long as the path is short. -/
theorem find_eq (h : Respells p p') (hshort : p.isShort) (hshort' : p'.isShort) (d : Disk)
    (last : Bool) : d.find last p = d.find last p' := by
  have hcomponents := h.components_eq
  obtain ⟨dir, dir', r, hdir, rfl, rfl⟩ := h
  cases hr : r.isAbsolute with
  | true => rw [join_of_isAbsolute hr, join_of_isAbsolute hr]
  | false =>
    -- An empty folder puts nothing in front, and only an empty one has no components.
    by_cases hempty : dir = ⟨""⟩
    · have hempty' : dir' = ⟨""⟩ := by
        rw [← components_eq_nil_iff, ← hdir, components_eq_nil_iff]
        exact hempty
      rw [hempty, hempty']
    · have hempty' : dir' ≠ ⟨""⟩ := by
        rwa [ne_eq, ← components_eq_nil_iff, ← hdir, components_eq_nil_iff]
      obtain ⟨front, -, hfront, hjoin⟩ := exists_written_join hempty
      obtain ⟨front', -, hfront', hjoin'⟩ := exists_written_join hempty'
      refine Disk.find_congr hcomponents ?_ hshort hshort' d last
      refine ⟨front.map String.ofList, front'.map String.ofList, r.written.map String.ofList,
        ?_, ?_, ?_, ?_⟩
      · simpa using r.written_ne_nil
      · rw [Disk.saying_map_ofList, Disk.saying_map_ofList, hfront, hfront',
          (components_eq_iff.1 hdir).2]
      · rw [Disk.parts_text, (hjoin r hr).1, List.map_append]
      · rw [Disk.parts_text, (hjoin' r hr).1, List.map_append]

theorem stat_eq (h : Respells p p') (hshort : p.isShort) (hshort' : p'.isShort) (d : Disk) :
    d.stat p = d.stat p' := by
  rw [Disk.stat, Disk.stat, h.find_eq hshort hshort']

theorem isFile_eq (h : Respells p p') (hshort : p.isShort) (hshort' : p'.isShort) (d : Disk) :
    d.isFile p = d.isFile p' := by
  rw [Disk.isFile, Disk.isFile, h.stat_eq hshort hshort']

theorem readText_eq (h : Respells p p') (hshort : p.isShort) (hshort' : p'.isShort) (d : Disk) :
    d.readText p = d.readText p' := by
  rw [Disk.readText, Disk.readText, h.stat_eq hshort hshort']

end Path.Respells

end Autofix
