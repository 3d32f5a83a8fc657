import Autofix.Proofs.Disk.Lookup
import Autofix.Proofs.Path.Normal
import Mathlib.Algebra.Ring.Int.Defs
import Mathlib.Data.List.Infix

/-!
# What normalization keeps and folds

The normal form of a path is written with some of its parts, in their order
(`Path.exists_normalize_eq`), so that it is no longer than the path (`Path.isShort_normalize`). It
has names only, behind at most one `..` and the root, and the paths that say this kind of thing are
those that normalization leaves alone but for their spelling (`Path.normalize_isNormal`); so a normal
form is its own (`Path.normalize_normalize`).

How deep the components lead is kept unless `..` is folded into a `..` before it
(`Path.depth_le_depth_foldl_fold`), which happens to paths that go up by two folders from where they
start (`Path.RisesTwice`).
-/

namespace Autofix

theorem Text.size_le_of_sublist {cs ds : List Char} (h : cs.Sublist ds) : size cs ≤ size ds := by
  induction h with
  | slnil => exact Nat.le_refl 0
  | cons c _ ih => exact Nat.le_trans ih (Nat.le_add_left _ _)
  | cons_cons c _ ih => exact Nat.add_le_add_left ih _

namespace Path

variable {p : Path} {stack cs : List Component}

/-! ### Depth -/

/-- By how many folders a component leads down. -/
def Component.depth : Component → Int
  | .up => -1
  | .name _ => 1
  | .root | .here => 0

theorem Component.depth_le_one (c : Component) : c.depth ≤ 1 := by
  cases c <;> simp [Component.depth]

/-- By how many folders components lead down, all together. -/
def depth (cs : List Component) : Int := (cs.map Component.depth).sum

@[simp] theorem depth_nil : depth [] = 0 := rfl

@[simp] theorem depth_cons (c : Component) (cs : List Component) :
    depth (c :: cs) = c.depth + depth cs := List.sum_cons

@[simp] theorem depth_append (cs ds : List Component) : depth (cs ++ ds) = depth cs + depth ds := by
  rw [depth, List.map_append, List.sum_append, depth, depth]

@[simp] theorem depth_reverse (cs : List Component) : depth cs.reverse = depth cs := by
  rw [depth, List.map_reverse, List.sum_reverse, depth]

/-- Somewhere on its way, a path is two folders or more above where it starts. -/
def RisesTwice (p : Path) : Prop := ∃ cs ∈ p.components.inits, depth cs < -1

instance (p : Path) : Decidable p.RisesTwice :=
  inferInstanceAs (Decidable (∃ cs ∈ p.components.inits, _))

theorem Folded.depth_ge (h : Folded stack) : -1 ≤ depth stack := by
  obtain ⟨names, rest, rfl, hrest⟩ := h
  have hnames : 0 ≤ depth (names.map .name) := by
    induction names with
    | nil => exact Int.le_refl 0
    | cons name names ih =>
      rw [List.map_cons, depth_cons, Component.depth]
      omega
  rcases hrest with rfl | rfl
  · rw [depth_append, depth_nil]
    omega
  · have hup : depth [.up] = -1 := rfl
    rw [depth_append, hup]
    omega

/-- Folding a component leads no less deep than the component. -/
theorem depth_le_depth_fold (stack : List Component) (c : Component) :
    depth stack + c.depth ≤ depth (fold stack c) := by
  cases c with
  | root | here => simp [fold, Component.depth]
  | name s =>
    rw [fold, depth_cons]
    omega
  | up =>
    cases stack with
    | nil => exact Int.le_refl _
    | cons top stack =>
      -- the component that `..` takes away leads down by one folder at most
      have htop := top.depth_le_one
      rw [fold, depth_cons, Component.depth]
      omega

/-- Folding components leads no less deep than the components. -/
theorem depth_le_depth_foldl_fold (stack cs : List Component) :
    depth stack + depth cs ≤ depth (cs.foldl fold stack) := by
  induction cs generalizing stack with
  | nil => exact Int.le_of_eq (Int.add_zero _)
  | cons c cs ih =>
    have hstep := depth_le_depth_fold stack c
    have hrest := ih (fold stack c)
    rw [depth_cons, List.foldl_cons]
    omega

/-- It leads deeper where the components rise by two folders on the way. -/
theorem depth_lt_depth_foldl_fold (h : ∃ ds ∈ cs.inits, depth ds < -1) :
    depth cs < depth (cs.foldl fold []) := by
  obtain ⟨ds, hds, hdepth⟩ := h
  obtain ⟨rest, rfl⟩ := List.mem_inits ds cs |>.1 hds
  have hfolded := (folded_nil.foldl ds).depth_ge
  have hrest := depth_le_depth_foldl_fold (ds.foldl fold []) rest
  rw [depth_append, List.foldl_append]
  omega

/-! ### The text of a normal form -/

/-- What is left after folding stood there before, in the same order. -/
theorem foldl_fold_sublist (stack cs : List Component) :
    (cs.foldl fold stack).reverse.Sublist (stack.reverse ++ cs) := by
  induction cs generalizing stack with
  | nil => rw [List.foldl_nil, List.append_nil]
  | cons c cs ih =>
    refine (ih (fold stack c)).trans ?_
    rw [List.append_cons]
    refine List.Sublist.append_right ?_ cs
    cases c with
    | root | here => exact List.sublist_append_left _ _
    | name s => rw [fold, List.reverse_cons]
    | up =>
      cases stack with
      | nil => exact .refl _
      | cons top stack =>
        rw [fold, List.reverse_cons, List.append_assoc]
        exact List.sublist_append_left _ _

/-- A normal form is written with some of the parts of the path that say something. -/
theorem exists_normalize_eq (p : Path) : ∃ names, names.Sublist (saying p.written) ∧
    p.components.foldl fold [] = (names.map partComponent).reverse ∧
    p.normalize = ofParts (if p.isAbsolute then .root else .none) names := by
  have hfold : p.components.foldl fold [] =
      ((saying p.written).map partComponent).foldl fold [] := by
    rw [components_eq, foldl_fold_lead]
  have hsublist := foldl_fold_sublist [] ((saying p.written).map partComponent)
  rw [← hfold, List.reverse_nil, List.nil_append, List.sublist_map_iff] at hsublist
  obtain ⟨names, hnames, hstack⟩ := hsublist
  have hreverse := congrArg List.reverse hstack
  rw [List.reverse_reverse] at hreverse
  refine ⟨names, hnames, hreverse, ?_⟩
  have hchars : (names.map partComponent).map Component.chars = names := by
    rw [List.map_map]
    exact List.map_id'' chars_partComponent _
  rw [normalize, hstack, hchars]

/-! ### The form of a normal form -/

theorem isAbsolute_normalize (p : Path) : p.normalize.isAbsolute = p.isAbsolute := by
  have hroot := (folded_nil.foldl p.components).root_not_mem
  rw [Bool.eq_iff_iff, isAbsolute_iff_mem, components_normalize]
  cases p.isAbsolute <;> simp [hroot]

/-- What normal forms say: maybe the root, then maybe one `..`, then names. -/
def IsNormal (cs : List Component) : Prop :=
  ∃ root up : List Component, ∃ names : List String, (root = [] ∨ root = [.root]) ∧
    (up = [] ∨ up = [.up]) ∧ cs = root ++ up ++ names.map .name

theorem isNormal_iff : IsNormal cs ↔ ∃ root stack, (root = [] ∨ root = [.root]) ∧ Folded stack ∧
    cs = root ++ stack.reverse := by
  constructor
  · rintro ⟨root, up, names, hroot, hup, rfl⟩
    have hreverse : up.reverse = [] ∨ up.reverse = [.up] := by
      rcases hup with rfl | rfl
      · exact .inl rfl
      · exact .inr rfl
    refine ⟨root, _, hroot, ⟨names.reverse, up.reverse, rfl, hreverse⟩, ?_⟩
    rw [List.reverse_append, List.reverse_reverse, List.map_reverse, List.reverse_reverse,
      List.append_assoc]
  · rintro ⟨root, _, hroot, ⟨names, up, rfl, hup⟩, rfl⟩
    refine ⟨root, up, names.reverse, hroot, hup, ?_⟩
    have hreverse : up.reverse = up := by rcases hup with rfl | rfl <;> rfl
    rw [List.reverse_append, hreverse, List.map_reverse, List.append_assoc]

/-- Components in normal form are left alone. -/
theorem components_normalize_of_isNormal (h : IsNormal p.components) :
    p.normalize.components = p.components := by
  obtain ⟨root, stack, hroot, hstack, hcomponents⟩ := isNormal_iff.1 h
  have hfold : p.components.foldl fold [] = stack := by
    rw [hcomponents, List.foldl_append]
    rcases hroot with rfl | rfl
    · exact hstack.foldl_reverse
    · exact hstack.foldl_reverse
  have habsolute : p.isAbsolute ↔ root = [.root] := by
    rw [isAbsolute_iff_mem, hcomponents, List.mem_append, List.mem_reverse,
      or_iff_left hstack.root_not_mem]
    rcases hroot with rfl | rfl <;> simp
  rw [components_normalize, hfold, hcomponents]
  rcases hroot with rfl | rfl <;> simp [habsolute]

theorem isNormal_components_normalize (p : Path) : IsNormal p.normalize.components := by
  refine isNormal_iff.2 ⟨_, _, ?_, folded_nil.foldl p.components, components_normalize p⟩
  split_ifs
  · exact .inr rfl
  · exact .inl rfl

/-- A normal form is its own normal form. -/
theorem normalize_normalize (p : Path) : p.normalize.normalize = p.normalize :=
  normalize_eq_of_components (components_normalize_of_isNormal (isNormal_components_normalize p))

/-- A normal form has no `.`, and a `..` only once and only as what it says first, after the root if
    it starts there. It is its own normal form, and it says the same as the path exactly if the path
    is of this kind already. -/
theorem normalize_isNormal (p : Path) : IsNormal p.normalize.components ∧
    p.normalize.normalize = p.normalize ∧ (p.normalize.same p ↔ IsNormal p.components) := by
  have hnormal := isNormal_components_normalize p
  refine ⟨hnormal, p.normalize_normalize, ?_⟩
  rw [same_iff]
  exact ⟨fun h => h ▸ hnormal, components_normalize_of_isNormal⟩

/-! ### The length of a normal form -/

theorem joinParts_sublist {parts parts' : List (List Char)} (h : parts.Sublist parts') :
    (joinParts parts).Sublist (joinParts parts') := by
  induction h with
  | slnil => exact .refl _
  | @cons parts parts' part _ ih =>
    refine ih.trans ?_
    cases parts' with
    | nil => exact List.nil_sublist _
    | cons next rest =>
      have happend : joinParts (part :: next :: rest) = part ++ ['/'] ++ joinParts (next :: rest) :=
        List.append_cons ..
      rw [happend]
      exact List.sublist_append_right _ _
  | @cons_cons parts parts' part h ih =>
    cases parts with
    | nil =>
      cases parts' with
      | nil => exact .refl _
      | cons next rest => exact List.sublist_append_left _ _
    | cons next rest =>
      obtain ⟨next', rest', rfl⟩ : ∃ next' rest', parts' = next' :: rest' :=
        List.exists_cons_of_ne_nil fun hnil => by simp [hnil] at h
      exact (List.Sublist.refl part).append (ih.cons_cons '/')

/-- A normal form holds some of the characters of the path, in their order. -/
theorem normalize_sublist (p : Path) : p.normalize.text.toList.Sublist p.text.toList := by
  obtain ⟨names, hnames, -, heq⟩ := exists_normalize_eq p
  have htext : joinParts p.written = p.text.toList := joinParts_fields _
  rw [heq, ofParts, String.toList_ofList]
  cases habsolute : p.isAbsolute with
  | false => exact htext ▸ joinParts_sublist (hnames.trans List.filter_sublist)
  | true =>
    obtain ⟨rest, hrest⟩ : ∃ rest, p.text.toList = '/' :: rest := by
      rw [isAbsolute, decide_eq_true_eq, List.head?_eq_some_iff] at habsolute
      exact habsolute
    -- In front of the separator at the start there is an empty part, which says nothing.
    have hwritten : p.written = [] :: Text.fields '/' rest := by
      obtain ⟨f, fs, hf⟩ := List.exists_cons_of_ne_nil (fields_ne_nil rest)
      rw [written, hrest, Text.fields, hf]
      rfl
    have hbehind : names.Sublist (Text.fields '/' rest) := by
      rw [hwritten] at hnames
      exact hnames.trans (List.filter_sublist (l := Text.fields '/' rest))
    have hjoin := joinParts_sublist hbehind
    rw [joinParts_fields] at hjoin
    rw [hrest]
    exact hjoin.cons_cons '/'

/-- A normal form is no longer than the path. -/
theorem isShort_normalize (h : p.isShort) : p.normalize.isShort := by
  have hsize := Text.size_le_of_sublist p.normalize_sublist
  rw [Text.size_toList, Text.size_toList] at hsize
  rw [isShort, decide_eq_true_eq] at h ⊢
  exact Nat.lt_of_le_of_lt hsize h

end Path

end Autofix
