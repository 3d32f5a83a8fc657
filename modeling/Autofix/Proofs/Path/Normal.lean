import Autofix.Proofs.Path.Below
import Autofix.Proofs.Path.Folder
import Mathlib.Data.List.Basic

/-!
# Normal forms and the order of paths

The order of paths is that of their lists of components, which is lexicographic and total
(`compare_trans`, `compare_total`). Folding leaves names, under which there may be one `..`
(`Folded.foldl`). Normal forms that say the same are the same text (`normalize_eq_of_components`),
and names below a folder stay as they are in the normal form (`components_normalize_descend`).
-/

namespace Autofix.Path

variable {p q r base : Path} {stack : List Component}

/-! ### The order -/

/-- The text of a name; other components have none. -/
def Component.nameOf : Component → String
  | .name s => s
  | _ => ""

theorem Component.compare_eq :
    Component.compare = compareLex (compareOn Component.rank) (compareOn Component.nameOf) := by
  funext c d
  cases c <;> cases d <;> rfl

instance : Std.TransCmp Component.compare := by
  rw [Component.compare_eq]
  infer_instance

instance : Std.LawfulEqCmp Component.compare where
  eq_of_compare {c d} h := by
    rw [Component.compare_eq, compareLex, Ordering.then_eq_eq] at h
    have hrank : c.rank = d.rank := Std.LawfulEqCmp.eq_of_compare h.1
    have hname : c.nameOf = d.nameOf := Std.LawfulEqCmp.eq_of_compare h.2
    cases c <;> cases d <;> first | rfl | exact congrArg _ hname | cases hrank

theorem compareComponents_eq : compareComponents = List.compareLex Component.compare := by
  funext cs ds
  induction cs generalizing ds with
  | nil => cases ds <;> rfl
  | cons c cs ih =>
    cases ds with
    | nil => rfl
    | cons d ds => rw [compareComponents, ih, List.compareLex_cons_cons]

theorem compare_trans (h : (p.compare q).isLE) (h' : (q.compare r).isLE) : (p.compare r).isLE := by
  rw [compare, compareComponents_eq] at *
  exact Std.TransCmp.isLE_trans h h'

theorem compare_total (p q : Path) : (p.compare q).isLE ∨ (q.compare p).isLE := by
  have hswap : q.compare p = (p.compare q).swap := by
    rw [compare, compare, compareComponents_eq]
    exact Std.OrientedCmp.eq_swap
  rw [hswap]
  cases p.compare q with
  | lt | eq => exact .inl rfl
  | gt => exact .inr rfl

theorem components_eq_of_compare (h : p.compare q = .eq) : p.components = q.components := by
  rw [compare, compareComponents_eq] at h
  exact Std.LawfulEqCmp.eq_of_compare h

/-! ### Folding -/

/-- Components that have been folded: names, under which there may be one `..`. -/
def Folded (stack : List Component) : Prop :=
  ∃ names : List String, ∃ rest, stack = names.map .name ++ rest ∧ (rest = [] ∨ rest = [.up])

theorem folded_nil : Folded [] := ⟨[], [], rfl, .inl rfl⟩

theorem Folded.fold (h : Folded stack) (c : Component) : Folded (fold stack c) := by
  obtain ⟨names, rest, rfl, hrest⟩ := h
  cases c with
  | root | here => exact ⟨names, rest, rfl, hrest⟩
  | name s => exact ⟨s :: names, rest, rfl, hrest⟩
  | up =>
    cases names with
    | cons name names => exact ⟨names, rest, rfl, hrest⟩
    | nil =>
      rcases hrest with rfl | rfl
      · exact ⟨[], [.up], rfl, .inr rfl⟩
      · exact folded_nil

theorem Folded.foldl (h : Folded stack) (cs : List Component) : Folded (cs.foldl Path.fold stack) := by
  induction cs generalizing stack with
  | nil => exact h
  | cons c cs ih => exact ih (h.fold c)

theorem foldl_fold_names (names : List String) (stack : List Component) :
    (names.map .name).foldl fold stack = (names.reverse.map .name) ++ stack := by
  induction names generalizing stack with
  | nil => rfl
  | cons name names ih =>
    rw [List.map_cons, List.foldl_cons, ih, fold, List.reverse_cons, List.map_append,
      List.append_assoc]
    rfl

/-- Components that have been folded are not folded any further. -/
theorem Folded.foldl_reverse (h : Folded stack) : stack.reverse.foldl Path.fold [] = stack := by
  obtain ⟨names, rest, rfl, hrest⟩ := h
  have hbelow : rest.reverse.foldl Path.fold [] = rest := by
    rcases hrest with rfl | rfl <;> rfl
  rw [List.reverse_append, List.foldl_append, hbelow, ← List.map_reverse, foldl_fold_names,
    List.reverse_reverse]

theorem Folded.root_not_mem (h : Folded stack) : .root ∉ stack := by
  obtain ⟨names, rest, rfl, hrest⟩ := h
  rcases hrest with rfl | rfl <;> simp

/-! ### Normal forms -/

theorem chars_partComponent (part : List Char) : (partComponent part).chars = part := by
  unfold partComponent
  split_ifs with hup
  · rw [hup]
    rfl
  · exact String.toList_ofList

/-- The components behind the start of a path are those of names. -/
theorem exists_areNames_components (p : Path) :
    ∃ names, AreNames names ∧ p.components = p.split.1.components ++ names.map partComponent := by
  refine ⟨saying p.written, fun name hname => ?_, components_eq p⟩
  exact ⟨not_mem_of_mem_written (List.mem_filter.1 hname).1, isBlank_of_mem_saying hname⟩

/-- Normalization keeps the components of names. -/
theorem exists_areNames_fold {names kept : List (List Char)} (hnames : AreNames names)
    (hkept : AreNames kept) : ∃ kept', AreNames kept' ∧
      (names.map partComponent).foldl fold (kept.map partComponent) = kept'.map partComponent := by
  induction names generalizing kept with
  | nil => exact ⟨kept, hkept, rfl⟩
  | cons name names ih =>
    obtain ⟨hname, hnames⟩ := List.forall_mem_cons.1 hnames
    rw [List.map_cons, List.foldl_cons, partComponent]
    split_ifs with hup
    · cases kept with
      | nil => exact ih hnames (List.forall_mem_singleton.2 (hup ▸ hname))
      | cons top kept => exact ih hnames (List.forall_mem_cons.1 hkept).2
    · have hpushed := ih hnames (List.forall_mem_cons.2 ⟨hname, hkept⟩)
      rwa [List.map_cons, partComponent, if_neg hup] at hpushed

theorem foldl_fold_lead (lead : Lead) (cs : List Component) :
    (lead.components ++ cs).foldl fold [] = cs.foldl fold [] := by
  cases lead <;> rfl

/-- The components of a normal form. -/
theorem components_normalize (p : Path) : p.normalize.components =
    (if p.isAbsolute then [.root] else []) ++ (p.components.foldl fold []).reverse := by
  obtain ⟨names, hnames, hcomponents⟩ := exists_areNames_components p
  obtain ⟨kept, hkept, hfold⟩ := exists_areNames_fold hnames (List.forall_mem_nil _)
  have hstack : p.components.foldl fold [] = kept.map partComponent := by
    rw [hcomponents, foldl_fold_lead, ← hfold]
    rfl
  have hkept' : AreNames kept.reverse := fun name hname => hkept name (List.mem_reverse.1 hname)
  have hchars : (kept.map partComponent).reverse.map Component.chars = kept.reverse := by
    rw [← List.map_reverse, List.map_map]
    exact List.map_id'' chars_partComponent _
  -- Written behind such a start, the parts are cut again where they were joined.
  have hfollows : ∀ lead, lead = .root ∨ lead = .none → Follows lead kept.reverse := by
    rintro _ (rfl | rfl)
    · trivial
    · generalize kept.reverse = parts at hkept'
      cases parts with
      | nil => exact .inl rfl
      | cons part parts => exact .inr ⟨part, parts, rfl, (hkept' part List.mem_cons_self).2⟩
  rw [normalize, hstack, hchars, ← rdropWhile_of_saying hkept'.saying_eq,
    components_ofParts_rdropWhile (hfollows _ ?_) fun part hpart => (hkept' part hpart).1,
    hkept'.saying_eq, List.map_reverse]
  · split_ifs <;> rfl
  · split_ifs
    · exact .inl rfl
    · exact .inr rfl

/-- Normal forms that say the same are the same. -/
theorem normalize_eq_of_components (h : p.normalize.components = q.normalize.components) :
    p.normalize = q.normalize := by
  rw [components_normalize, components_normalize] at h
  have hroot : ∀ r : Path, .root ∉ (r.components.foldl fold []).reverse := fun r hmem =>
    (folded_nil.foldl r.components).root_not_mem (List.mem_reverse.1 hmem)
  -- The root is at the front of both or of neither, and the rest is the same.
  have hp := hroot p
  have hq := hroot q
  rw [normalize, normalize]
  cases hpabs : p.isAbsolute <;> cases hqabs : q.isAbsolute <;> simp [hpabs, hqabs] at h ⊢
  · rw [h]
  · rw [h] at hp
    simp at hp
  · rw [← h] at hq
    simp at hq
  · rw [h]

/-! ### Names below a folder -/

/-- The path that names lead to from a folder. -/
def descend (base : Path) (names : List String) : Path :=
  names.foldl (fun p name => p.join ⟨name⟩) base

/-- Names that entries of folders may have. -/
def AreEntries (names : List String) : Prop :=
  ∀ name ∈ names, '/' ∉ name.toList ∧ isBlank name.toList = false ∧ name ≠ ".."

instance (names : List String) : Decidable (AreEntries names) :=
  inferInstanceAs (Decidable (∀ name ∈ names, _))

theorem components_descend {names : List String} (h : AreEntries names) (base : Path) :
    (base.descend names).components = base.components ++ names.map .name := by
  induction names generalizing base with
  | nil => simp [descend]
  | cons name names ih =>
    obtain ⟨⟨hslash, hblank, hup⟩, hnames⟩ := List.forall_mem_cons.1 h
    have hjoin := components_join_name hslash hblank base
    have hname : partComponent name.toList = .name name := by
      rw [partComponent, if_neg, String.ofList_toList]
      exact fun hdots => hup (String.toList_inj.1 hdots)
    rw [String.ofList_toList, hname] at hjoin
    rw [descend, List.foldl_cons, ← descend, ih hnames, hjoin, List.map_cons, List.append_assoc]
    rfl

/-- Names below a folder stay as they are in the normal form. -/
theorem components_normalize_descend {names : List String} (h : AreEntries names) (base : Path) :
    (base.descend names).normalize.components = base.normalize.components ++ names.map .name := by
  have habsolute : (base.descend names).isAbsolute = base.isAbsolute := by
    rw [Bool.eq_iff_iff, isAbsolute_iff_mem, isAbsolute_iff_mem, components_descend h]
    simp
  rw [components_normalize, components_normalize, habsolute, components_descend h,
    List.foldl_append, foldl_fold_names, List.reverse_append, ← List.map_reverse,
    List.reverse_reverse, List.append_assoc]

/-- Different names below a folder have different normal forms. -/
theorem descend_injective_normalize {names names' : List String} (h : AreEntries names)
    (h' : AreEntries names')
    (heq : (base.descend names).normalize = (base.descend names').normalize) : names = names' := by
  have hcomponents := congrArg components heq
  rw [components_normalize_descend h, components_normalize_descend h', List.append_cancel_left_eq]
    at hcomponents
  exact List.map_injective_iff.2 (fun _ _ => Component.name.inj) hcomponents

/-- A path below a name below a folder. -/
theorem join_join {name : String} (hslash : '/' ∉ name.toList) (hne : name ≠ "")
    (hq : q.isAbsolute = false) (base : Path) :
    (base.join ⟨name⟩).join q = base.join ⟨name ++ "/" ++ q.text⟩ := by
  obtain ⟨front, last, hname⟩ : ∃ front last, name.toList = front ++ [last] := by
    rcases List.eq_nil_or_concat' name.toList with hnil | h
    · exact absurd (String.toList_eq_nil_iff.1 hnil) hne
    · exact h
  have hlast : last ≠ '/' := by
    rintro rfl
    exact hslash (hname ▸ by simp)
  have hrelative : ∀ tail, (⟨name ++ tail⟩ : Path).isAbsolute = false := by
    intro tail
    obtain ⟨c, cs, hcs⟩ : ∃ c cs, name.toList = c :: cs :=
      List.exists_cons_of_ne_nil (by simp [hname])
    have hc : c ≠ '/' := by
      rintro rfl
      exact hslash (hcs ▸ List.mem_cons_self)
    simp [isAbsolute, hcs, hc]
  -- What a path of this kind ends with is the end of the name.
  have hbelow : ∀ front : String,
      (⟨front ++ name⟩ : Path).join q = ⟨front ++ (name ++ "/" ++ q.text)⟩ := by
    intro front
    simp [join, hq, hname, hlast, String.append_assoc]
  have hname' : (⟨name⟩ : Path).isAbsolute = false := by simpa using hrelative ""
  have hempty := hbelow ""
  rw [String.empty_append, String.empty_append] at hempty
  rw [String.append_assoc] at hempty ⊢
  rw [join.eq_def base ⟨name⟩, join.eq_def base ⟨name ++ ("/" ++ q.text)⟩, hname', hrelative]
  cases base.text.toList.getLast? with
  | none => exact hempty
  | some c =>
    simp only [Bool.false_eq_true, if_false]
    split_ifs <;> rw [hbelow] <;> simp only [String.append_assoc]

theorem AreEntries.areNames {names : List String} (h : AreEntries names) :
    AreNames (names.map String.toList) := by
  intro part hpart
  obtain ⟨name, hname, rfl⟩ := List.mem_map.1 hpart
  exact ⟨(h name hname).1, (h name hname).2.1⟩

/-- What names lead to from a folder is below the folder with one separator between each two. -/
theorem descend_eq_join {names : List String} (h : AreEntries names) (hne : names ≠ [])
    (base : Path) : base.descend names = base.join (ofNames (names.map String.toList)) := by
  induction names generalizing base with
  | nil => exact absurd rfl hne
  | cons name names ih =>
    obtain ⟨hname, hnames⟩ : _ ∧ AreEntries names := List.forall_mem_cons.1 h
    cases names with
    | nil => simp [descend, ofNames, ofParts, Lead.chars, joinParts]
    | cons next names =>
      have hempty : name ≠ "" := by
        rintro rfl
        exact absurd hname.2.1 (by decide)
      have habsolute := isAbsolute_ofNames hnames.areNames (by simp : _ ≠ []) saying_nil
      rw [List.append_nil] at habsolute
      rw [descend, List.foldl_cons, ← descend, ih hnames (by simp),
        join_join hname.1 hempty habsolute]
      refine congrArg base.join (congrArg Path.mk (String.toList_inj.1 ?_))
      simp [ofNames, ofParts, Lead.chars, joinParts]

/-- What is seen of names below a folder from there are the names. -/
theorem stripBase?_descend {names : List String} (h : AreEntries names) (base : Path) :
    (base.descend names).stripBase? base = some (ofNames (names.map String.toList)) := by
  rcases eq_or_ne names [] with rfl | hne
  · obtain ⟨r, hr⟩ := Option.isSome_iff_exists.1
      (stripBase?_isSome_iff.2 (List.prefix_refl base.components))
    have hempty : r = ⟨""⟩ := components_eq_nil_iff.1 (List.append_cancel_left
      ((List.append_nil _).trans (components_of_stripBase? hr))).symm
    rw [descend, List.foldl_nil, hr, hempty]
    rfl
  · refine (stripBase?_eq_ofNames_iff h.areNames (by simpa using hne)).2
      ⟨base, [], same_iff.2 rfl, saying_nil, ?_⟩
    rw [List.append_nil]
    exact descend_eq_join h hne base

end Autofix.Path
