import Autofix.Proofs.Path.Parts
import Mathlib.Data.List.Forall2
import Mathlib.Data.List.Infix

/-!
# Folders of paths

The folder of a path has its components but for the last one (`components_folder`), so that the paths
upwards from a path say what the path says, with less and less of it (`map_components_ancestors`).
Upwards from paths that say the same there are paths that say the same (`ancestors_congr`).
-/

namespace Autofix.Path

variable {p q : Path}

/-- Parts up to the last one that says something, and the blank ones behind it. -/
theorem eq_append_of_dropWhile {parts before : List (List Char)} {last : List Char}
    (h : parts.reverse.dropWhile isBlank = last :: before) :
    parts = before.reverse ++ last :: (parts.reverse.takeWhile isBlank).reverse := by
  rw [← List.reverse_inj, List.reverse_append, List.reverse_cons, List.reverse_reverse,
    List.reverse_reverse, List.append_assoc, List.singleton_append, ← h,
    List.takeWhile_append_dropWhile]

/-- The folder of a path takes the last component off, unless there is none or only the root. -/
theorem components_parent? (p : Path) : p.parent?.map components =
    if p.components = [] ∨ p.components = [.root] then none else some p.components.dropLast := by
  rcases hsplit : p.split with ⟨lead, parts⟩
  have hcomponents : p.components = lead.components ++ (saying parts).map partComponent := by
    rw [components_eq, ← saying_split, hsplit]
  have hslash : ∀ part ∈ parts, '/' ∉ part := fun part hpart =>
    not_mem_of_mem_split (p := p) (by rwa [hsplit])
  have hfollows : Follows lead parts := by simpa [hsplit] using follows_split p
  simp only [parent?, hsplit]
  cases hdrop : parts.reverse.dropWhile isBlank with
  | nil =>
    have hsaying : saying parts = [] := by
      rw [← List.reverse_eq_nil_iff, ← saying_reverse, ← saying_dropWhile, hdrop, saying_nil]
    rw [hsaying] at hcomponents
    rw [hcomponents]
    cases lead <;> decide
  | cons last before =>
    have hlast : isBlank last = false := by
      have hhead := List.head?_dropWhile_not isBlank parts.reverse
      rwa [hdrop] at hhead
    have hparts := eq_append_of_dropWhile hdrop
    have hsaying : saying parts = saying before.reverse ++ [last] := by
      have hcut := congrArg saying hparts
      rwa [saying_append, saying_cons hlast, saying_reverse (parts.reverse.takeWhile isBlank),
        saying_takeWhile, List.reverse_nil] at hcut
    -- The folder is written with the blank parts in front of the last one left out.
    have hfolder := components_ofParts_rdropWhile (hparts ▸ hfollows).of_append fun part hpart =>
      hslash part (hparts ▸ List.mem_append_left _ hpart)
    rw [List.rdropWhile, List.reverse_reverse] at hfolder
    rw [hsaying, List.map_append, ← List.append_assoc, ← hfolder, List.map_singleton]
      at hcomponents
    rw [hcomponents, List.dropLast_concat, Option.map_some, if_neg]
    rintro (hnil | hroot)
    · simp at hnil
    · have hlast := congrArg List.getLast? hroot
      rw [List.getLast?_concat] at hlast
      exact (partComponent_ne last).1 (Option.some.inj hlast)

theorem components_folder (p : Path) : p.folder.components = p.components.dropLast := by
  have h := components_parent? p
  rw [folder]
  split_ifs at h with hempty
  · rw [Option.map_eq_none_iff.1 h]
    rcases hempty with hempty | hempty <;> rw [hempty] <;> rfl
  · obtain ⟨q, hq, hcomponents⟩ := Option.map_eq_some_iff.1 h
    rw [hq]
    exact hcomponents

theorem components_of_parent? {a : Path} (h : p.parent? = some a) :
    p.components ≠ [] ∧ a.components = p.components.dropLast := by
  have hparent := components_parent? p
  rw [h] at hparent
  split_ifs at hparent with hempty
  · cases hparent
  · exact ⟨(not_or.1 hempty).1, Option.some.inj hparent⟩

theorem length_components_parent? {a : Path} (h : p.parent? = some a) :
    a.components.length < p.components.length := by
  obtain ⟨hne, ha⟩ := components_of_parent? h
  have hpos := List.length_pos_iff.2 hne
  rw [ha, List.length_dropLast]
  omega

theorem length_saying_le (parts : List (List Char)) :
    (saying parts).length ≤ (joinParts parts).length := by
  induction parts with
  | nil => exact Nat.le_refl 0
  | cons part rest ih =>
    have hpart : (saying [part]).length ≤ part.length := by
      cases part with
      | nil => exact Nat.le_refl 0
      | cons c cs => exact Nat.le_trans (List.length_filter_le ..) (by simp)
    have hcons : saying (part :: rest) = saying [part] ++ saying rest :=
      saying_append [part] rest
    rw [hcons, List.length_append]
    cases rest with
    | nil => simpa [joinParts] using hpart
    | cons next rest =>
      simp only [joinParts, List.length_append, List.length_cons]
      omega

/-- A start that is a component takes up a character of its own. -/
theorem length_splitWritten_le (parts : List (List Char)) :
    (splitWritten parts).1.components.length + (saying parts).length ≤
      (joinParts parts).length := by
  unfold splitWritten
  split
  · rename_i part rest
    have hrest := length_saying_le (part :: rest)
    have hblank : saying ([] :: part :: rest) = saying (part :: rest) := rfl
    simp only [hblank, Lead.components, List.length_singleton]
    simp only [joinParts, List.nil_append, List.length_cons] at hrest ⊢
    omega
  · decide
  · rename_i part rest
    have hrest := length_saying_le (part :: rest)
    have hblank : saying (['.'] :: part :: rest) = saying (part :: rest) := rfl
    simp only [hblank, Lead.components, List.length_singleton]
    simp only [joinParts, List.length_append, List.length_cons, List.length_nil] at hrest ⊢
    omega
  · simpa [Lead.components] using length_saying_le _

/-- A path has no more components than characters. -/
theorem length_components_le (p : Path) : p.components.length ≤ p.text.length := by
  have htext : p.text.length = (joinParts p.written).length := by
    rw [written, joinParts_fields, String.length_toList]
  rw [components_eq, List.length_append, List.length_map, htext, split_eq]
  exact length_splitWritten_le p.written

theorem normalize_congr (h : p.components = q.components) : p.normalize = q.normalize := by
  have habsolute : p.isAbsolute = q.isAbsolute := by
    rw [Bool.eq_iff_iff, isAbsolute_iff, isAbsolute_iff, (components_eq_iff.1 h).1]
  rw [normalize, normalize, h, habsolute]

/-- Upwards from components: their first ones, fewer and fewer of them, down to none or to the
    root. -/
def upwards (cs : List Component) : List (List Component) :=
  (if cs.head? = some .root then cs.inits.tail else cs.inits).reverse

theorem map_components_go {fuel : Nat} (hp : p.components.length < fuel) :
    (ancestors.go fuel p).map components = upwards p.components := by
  -- By induction on the fuel, which is more than there are components and so never used up.
  induction fuel generalizing p with
  | zero => exact absurd hp (Nat.not_lt_zero _)
  | succ fuel ih =>
    have hparent := components_parent? p
    rw [ancestors.go, List.map_cons]
    split_ifs at hparent with hempty
    · rw [Option.map_eq_none_iff.1 hparent]
      rcases hempty with hempty | hempty <;> rw [hempty] <;> rfl
    · obtain ⟨q, hq, hcomponents⟩ := Option.map_eq_some_iff.1 hparent
      have hlength := Nat.lt_of_lt_of_le (length_components_parent? hq) (Nat.le_of_lt_succ hp)
      obtain ⟨front, last, hcs⟩ := (List.eq_nil_or_concat' _).resolve_left (not_or.1 hempty).1
      rw [hcs, List.dropLast_concat] at hcomponents
      rw [hq]
      dsimp only
      rw [ih hlength, hcs, hcomponents]
      have hinits : (front ++ [last]).inits = front.inits ++ [front ++ [last]] := by
        rw [List.inits_append]
        rfl
      cases front with
      | nil =>
        have hlast : last ≠ .root := by
          rintro rfl
          exact (not_or.1 hempty).2 hcs
        simp [upwards, hlast]
      | cons first front =>
        rw [upwards, upwards, hinits, List.cons_append, List.head?_cons, List.head?_cons]
        split_ifs
        · simp [List.inits]
        · simp

/-- What the paths upwards from a path say. -/
theorem map_components_ancestors (p : Path) :
    p.ancestors.map components = upwards p.components :=
  map_components_go (Nat.lt_succ_of_le (length_components_le p))

/-- Upwards from a path there are paths to the same start. -/
theorem prefix_of_mem_ancestors (h : q ∈ p.ancestors) :
    q.components <+: p.components ∧ q.isAbsolute = p.isAbsolute := by
  have hmem := List.mem_map_of_mem (f := components) h
  rw [map_components_ancestors, upwards, List.mem_reverse] at hmem
  rw [Bool.eq_iff_iff, isAbsolute_iff_mem, isAbsolute_iff_mem]
  split_ifs at hmem with hroot
  · -- The root itself is left of an absolute path.
    obtain ⟨rest, hrest⟩ := List.head?_eq_some_iff.1 hroot
    rw [hrest, List.inits, List.tail_cons, List.mem_map] at hmem
    obtain ⟨front, hfront, hq⟩ := hmem
    rw [hrest, ← hq]
    exact ⟨List.cons_prefix_cons.2 ⟨rfl, (List.mem_inits _ _).1 hfront⟩, by simp⟩
  · have hpre := (List.mem_inits _ _).1 hmem
    refine ⟨hpre, fun h => hpre.subset h, fun h => absurd ?_ hroot⟩
    have hlead := isAbsolute_iff.1 (isAbsolute_iff_mem.2 h)
    rw [components_eq, hlead]
    rfl

theorem mem_ancestors_of_parent? (h : p.parent? = some q) : q ∈ p.ancestors := by
  have hlength : 0 < p.text.length :=
    Nat.lt_of_lt_of_le (Nat.zero_lt_of_lt (length_components_parent? h)) (length_components_le p)
  obtain ⟨fuel, hfuel⟩ := Nat.exists_eq_add_one_of_ne_zero (Nat.ne_of_gt hlength)
  rw [ancestors, hfuel, ancestors.go, h]
  exact List.mem_cons_of_mem _ List.mem_cons_self

/-- Upwards from paths that say the same there are paths that say the same. -/
theorem ancestors_congr (h : p.components = q.components) :
    List.Forall₂ (fun a b => a.components = b.components) p.ancestors q.ancestors := by
  have hmap : List.Forall₂ (· = ·) (p.ancestors.map components) (q.ancestors.map components) := by
    rw [map_components_ancestors, map_components_ancestors, h, List.forall₂_eq_eq_eq]
  rwa [List.forall₂_map_left_iff, List.forall₂_map_right_iff] at hmap

end Autofix.Path
