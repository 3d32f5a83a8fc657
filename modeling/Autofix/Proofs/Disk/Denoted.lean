import Autofix.Proofs.Disk.Unlinked
import Autofix.Proofs.Path.Folding

/-!
# What normal forms denote

Where no links are on a disk, the normal form of a path leads to what the path leads to, unless the
path goes up by two folders from where it starts, or nothing is left of it
(`Disk.stat_normalize_iff`). A path that goes up so far is confused with another one
(`Disk.normalize_denotes_other`).
-/

namespace Autofix.Disk

open Autofix.Path (Component depth fold)

variable {d : Disk} {p q : Path} {root t : Tree} {here place : Place} {names : List String}
  {cs stack : List Component}

/-- Somewhere on its way, a path leads up from the root. -/
def ClimbsOut (d : Disk) (p : Path) : Prop :=
  ∃ cs ∈ p.components.inits, cs.getLast? = some .up ∧ placeFrom d.current cs.dropLast = []

instance (d : Disk) (p : Path) : Decidable (d.ClimbsOut p) :=
  inferInstanceAs (Decidable (∃ cs ∈ p.components.inits, _))

/-! ### Places and depths -/

/-- Components lead no higher than by their depth, as there is nothing above the root. -/
theorem le_length_placeFrom (hroot : .root ∉ cs) (here : Place) :
    here.length + depth cs ≤ (placeFrom here cs).length := by
  induction cs generalizing here with
  | nil => exact Int.le_of_eq (Int.add_zero _)
  | cons c cs ih =>
    obtain ⟨hc, hcs⟩ : Component.root ≠ c ∧ Component.root ∉ cs := by simpa using hroot
    have hrest := ih hcs (goTo here c)
    have hstep : here.length + c.depth ≤ (goTo here c).length := by
      cases c with
      | root => exact absurd rfl hc
      | here => exact Int.le_of_eq (Int.add_zero _)
      | name s => simp [goTo, Component.depth]
      | up =>
        rw [goTo, List.length_dropLast, Component.depth]
        omega
    rw [Path.depth_cons]
    exact Int.le_trans (by omega) hrest

/-- Components that do not climb out of the root lead exactly as deep as they say. -/
theorem length_placeFrom (here : Place) (hroot : .root ∉ cs)
    (hdeep : ∀ ds ∈ cs.inits, ds.getLast? = some .up → placeFrom here ds.dropLast ≠ []) :
    (placeFrom here cs).length = here.length + depth cs := by
  induction cs generalizing here with
  | nil => exact (Int.add_zero _).symm
  | cons c cs ih =>
    obtain ⟨hc, hcs⟩ : Component.root ≠ c ∧ Component.root ∉ cs := by simpa using hroot
    -- The condition is on all starts of `c :: cs`, so it holds of those of `cs` with `c` in front.
    have hrest := ih (goTo here c) hcs fun ds hds hlast => by
      have hne : ds ≠ [] := fun hnil => by rw [hnil] at hlast; cases hlast
      have hstep := hdeep (c :: ds) (by simpa [List.inits] using hds)
      rw [List.getLast?_cons_of_ne_nil hne, List.dropLast_cons_of_ne_nil hne] at hstep
      exact hstep hlast
    have hstep : (goTo here c).length = here.length + c.depth := by
      cases c with
      | root => exact absurd rfl hc
      | here => exact (Int.add_zero _).symm
      | name s => simp [goTo, Component.depth]
      | up =>
        have hpos := List.length_pos_iff.2 (hdeep [.up] (by simp [List.inits]) rfl)
        rw [List.dropLast_singleton, placeFrom, List.foldl_nil] at hpos
        rw [goTo, List.length_dropLast, Component.depth]
        omega
    rw [Path.depth_cons, placeFrom, List.foldl_cons]
    rw [placeFrom] at hrest
    omega

/-- As long as components do not rise by two folders, they lead where they lead after folding. -/
theorem placeFrom_foldl_fold (hstack : Path.Folded stack) (hroot : .root ∉ cs)
    (hrise : ∀ ds ∈ cs.inits, -1 ≤ depth stack + depth ds) (here : Place) :
    placeFrom here (cs.foldl fold stack).reverse = placeFrom here (stack.reverse ++ cs) := by
  induction cs generalizing stack with
  | nil => rw [List.foldl_nil, List.append_nil]
  | cons c cs ih =>
    obtain ⟨hc, hcs⟩ : Component.root ≠ c ∧ Component.root ∉ cs := by simpa using hroot
    have hrest : ∀ ds ∈ cs.inits, -1 ≤ depth (fold stack c) + depth ds := by
      intro ds hds
      have hle := Path.depth_le_depth_fold stack c
      have hge := hrise (c :: ds) (by simp [List.inits, (List.mem_inits _ _).1 hds])
      rw [Path.depth_cons] at hge
      omega
    have hstep : placeFrom here (fold stack c).reverse = placeFrom here (stack.reverse ++ [c]) := by
      cases c with
      | root => exact absurd rfl hc
      | here => rw [placeFrom_append]; rfl
      | name s => rw [fold, List.reverse_cons]
      | up =>
        obtain ⟨names, rest, rfl, hend⟩ := hstack
        cases names with
        | cons name names =>
          -- The name that is taken away leads to the folder that `..` leads back from.
          rw [List.map_cons, List.cons_append, fold, List.reverse_cons, placeFrom_append,
            placeFrom_append]
          exact (List.dropLast_concat (b := name)).symm
        | nil =>
          rcases hend with rfl | rfl
          · rfl
          · -- Under a second `..` the components would have risen by two folders.
            have hge := hrise [.up] (by simp [List.inits])
            simp [Component.depth] at hge
    rw [List.foldl_cons, ih (hstack.fold c) hcs hrest, List.append_cons, placeFrom_append, hstep,
      ← placeFrom_append]

/-! ### Normal forms -/

/-- The components of a path behind its start. -/
def behind (p : Path) : List Component := (Path.saying p.written).map Path.partComponent

theorem root_not_mem_behind (p : Path) : .root ∉ behind p := fun hmem => by
  obtain ⟨part, -, hpart⟩ := List.mem_map.1 hmem
  exact (Path.partComponent_ne part).1 hpart

theorem placeOf_eq (d : Disk) (p : Path) :
    d.placeOf p = placeFrom (if p.isAbsolute then [] else d.current) (behind p) := by
  rw [placeOf, Path.components_eq, placeFrom_append, placeFrom_start]
  rfl

theorem foldl_fold_behind (p : Path) :
    (behind p).foldl fold [] = p.components.foldl fold [] := by
  rw [Path.components_eq, Path.foldl_fold_lead, behind]

theorem placeOf_normalize_eq (d : Disk) (p : Path) : d.placeOf p.normalize =
    placeFrom (if p.isAbsolute then [] else d.current) ((behind p).foldl fold []).reverse := by
  rw [placeOf, Path.components_normalize, foldl_fold_behind, placeFrom_append]
  cases p.isAbsolute <;> rfl

/-- Where a path starts says nothing about how far it goes up. -/
theorem risesTwice_iff (p : Path) : p.RisesTwice ↔ ∃ ds ∈ (behind p).inits, depth ds < -1 := by
  have hcons : ∀ {c : Component}, c.depth = 0 → ((∃ ds ∈ (c :: behind p).inits, depth ds < -1) ↔
      ∃ ds ∈ (behind p).inits, depth ds < -1) := by
    intro c hc
    simp [List.inits, hc]
  rw [Path.RisesTwice, Path.components_eq]
  cases p.split.1 with
  | root | here => exact hcons rfl
  | none => exact Iff.rfl

/-- By its text, a normal form tells the same place unless the path rises by two folders. -/
theorem placeOf_normalize (h : ¬p.RisesTwice) (d : Disk) : d.placeOf p.normalize = d.placeOf p := by
  rw [risesTwice_iff] at h
  push Not at h
  rw [placeOf_normalize_eq, placeOf_eq, placeFrom_foldl_fold Path.folded_nil (root_not_mem_behind p),
    List.reverse_nil, List.nil_append]
  intro ds hds
  have hge := h ds hds
  rw [Path.depth_nil]
  omega

/-- A path that rises by two folders, and stays below the root, has a normal form that tells another
    place. -/
theorem placeOf_normalize_ne (h : p.RisesTwice) (hdeep : ¬d.ClimbsOut p) :
    d.placeOf p.normalize ≠ d.placeOf p := by
  have hlt := Path.depth_lt_depth_foldl_fold ((risesTwice_iff p).1 h)
  have hnone : .root ∉ ((behind p).foldl fold []).reverse := fun hmem =>
    root_not_mem_behind p ((Path.foldl_fold_sublist [] (behind p)).subset hmem)
  have hlength := length_placeFrom (if p.isAbsolute then [] else d.current)
    (root_not_mem_behind p) fun ds hds hlast hplace => hdeep (by
      have hne : ds ≠ [] := fun hnil => by rw [hnil] at hlast; cases hlast
      refine ⟨p.split.1.components ++ ds, ?_, ?_, ?_⟩
      · rw [Path.components_eq, List.mem_inits]
        exact (List.prefix_append_right_inj _).2 ((List.mem_inits _ _).1 hds)
      · rw [List.getLast?_append_of_ne_nil _ hne, hlast]
      · rw [List.dropLast_append_of_ne_nil hne, placeFrom_append, placeFrom_start, hplace])
  have hle := le_length_placeFrom hnone (if p.isAbsolute then [] else d.current)
  rw [Path.depth_reverse] at hle
  intro heq
  rw [placeOf_normalize_eq, placeOf_eq] at heq
  rw [heq, hlength] at hle
  omega

/-! ### Looking normal forms up -/

/-- Behind a start that is not `.`, names are written as they are. -/
theorem exists_written_ofParts (lead : Path.Lead) {names : List (List Char)}
    (hnames : Path.AreNames names) (hlead : lead ≠ .here) (hne : Path.ofParts lead names ≠ ⟨""⟩) :
    ∃ front, Path.saying front = [] ∧ (Path.ofParts lead names).written = front ++ names := by
  have hslash : ∀ part ∈ names, '/' ∉ part := fun part hpart => (hnames part hpart).1
  cases lead with
  | here => exact absurd rfl hlead
  | none =>
    have hnil : names ≠ [] := by
      rintro rfl
      exact hne rfl
    exact ⟨[], rfl, Path.written_joinParts hnil hslash⟩
  | root =>
    cases names with
    | nil => exact ⟨[[], []], rfl, rfl⟩
    | cons name names =>
      have hparts : ∀ part ∈ [] :: name :: names, '/' ∉ part :=
        List.forall_mem_cons.2 ⟨List.not_mem_nil, hslash⟩
      refine ⟨[[]], rfl, ?_⟩
      rw [List.singleton_append, ← Path.written_joinParts (List.cons_ne_nil _ _) hparts]
      rfl

/-- Only the first one of folded components may be `..`. -/
theorem up_not_mem_tail (h : Path.Folded stack) : .up ∉ stack.reverse.tail := by
  obtain ⟨names, rest, rfl, hrest⟩ := h
  have hnames : Component.up ∉ (names.map Component.name).reverse := by simp
  rw [List.reverse_append]
  rcases hrest with rfl | rfl
  · exact fun hmem => hnames (List.mem_of_mem_tail hmem)
  · exact hnames

theorem placeFrom_names {names : List String} (hnames : ∀ name ∈ names, name ≠ "..")
    (here : Place) : placeFrom here (names.map componentOf) = here ++ names := by
  rw [← placeFrom_map_name]
  exact congrArg _ (List.map_congr_left fun name hname => componentOf_of_ne (hnames name hname))

/-- Names lead to what is at the place that they tell, if only the first one of them is `..`. -/
theorem leadsTo_placeFrom {names : List String} (hroot : root.LinkFree)
    (hnames : ∀ name ∈ names, '/' ∉ name.toList ∧ Path.isBlank name.toList = false)
    (hup : ".." ∉ names.tail) (hsize : ∀ name ∈ names, name ≠ ".." → name.utf8ByteSize ≤ 255)
    (hget : root.get? (placeFrom here (names.map componentOf)) = some t) :
    root.LeadsTo here names (placeFrom here (names.map componentOf)) t := by
  have hbelow : ∀ {names : List String} {here : Place}, ".." ∉ names →
      (∀ name ∈ names, '/' ∉ name.toList ∧ Path.isBlank name.toList = false) →
      (∀ name ∈ names, name ≠ ".." → name.utf8ByteSize ≤ 255) →
      root.get? (placeFrom here (names.map componentOf)) = some t →
      root.LeadsTo here names (placeFrom here (names.map componentOf)) t := by
    intro names here hup hnames hsize hget
    have hne : ∀ name ∈ names, name ≠ ".." := fun name hname heq => hup (heq ▸ hname)
    rw [placeFrom_names hne] at hget ⊢
    exact Tree.leadsTo_names hroot
      (fun name hname => ⟨(hnames name hname).1, (hnames name hname).2, hne name hname⟩)
      (fun name hname => hsize name hname (hne name hname)) hget
  cases names with
  | nil => exact hbelow List.not_mem_nil hnames hsize hget
  | cons name names =>
    by_cases hname : name = ".."
    · subst hname
      exact .up (hbelow hup (List.forall_mem_cons.1 hnames).2 (List.forall_mem_cons.1 hsize).2 hget)
    · refine hbelow (fun hmem => ?_) hnames hsize hget
      rcases List.mem_cons.1 hmem with heq | hmem
      · exact hname heq.symm
      · exact hup hmem

/-- What is at the place that a normal form tells can be looked up by it, if the path leads to
    something. -/
theorem stat_normalize {t' : Tree} (hlinks : d.root.LinkFree)
    (hstat : d.stat p = .ok (place, t)) (hne : p.normalize ≠ ⟨""⟩)
    (hget : d.root.get? (d.placeOf p.normalize) = some t') :
    d.stat p.normalize = .ok (d.placeOf p.normalize, t') := by
  obtain ⟨⟨hnul, hempty, hshort⟩, hleads⟩ := (stat_eq_ok_iff_leadsTo hlinks).1 hstat
  obtain ⟨names, hsub, hstack, heq⟩ := Path.exists_normalize_eq p
  have hnames : Path.AreNames names := fun name hname =>
    ⟨Path.not_mem_of_mem_written (List.mem_of_mem_filter (hsub.subset hname)),
      Path.isBlank_of_mem_saying (hsub.subset hname)⟩
  obtain ⟨front, hfront, hwritten⟩ := exists_written_ofParts
    (if p.isAbsolute then .root else .none) hnames (by cases p.isAbsolute <;> simp) (heq ▸ hne)
  -- The parts that are written are the names that folding has left, so they tell the place.
  have hcomponents : (names.map String.ofList).map componentOf = names.map Path.partComponent := by
    rw [List.map_map]
    exact List.map_congr_left fun name _ => congrArg _ String.toList_ofList
  have hplace : d.placeOf p.normalize = placeFrom (if p.isAbsolute then [] else d.current)
      ((names.map String.ofList).map componentOf) := by
    rw [placeOf_normalize_eq, foldl_fold_behind, hstack, List.reverse_reverse, hcomponents]
  -- Folding leaves `..` at the start only.
  have hupper : ".." ∉ (names.map String.ofList).tail := fun hmem => by
    have htail := up_not_mem_tail (Path.folded_nil.foldl p.components)
    rw [hstack, List.reverse_reverse, ← hcomponents, ← List.map_tail] at htail
    exact htail (List.mem_map_of_mem (f := componentOf) hmem)
  rw [stat_eq_ok_iff_leadsTo hlinks]
  refine ⟨⟨fun hmem => hnul (p.normalize_sublist.subset hmem), hne,
    Path.isShort_normalize hshort⟩, ?_⟩
  rw [p.isAbsolute_normalize, hplace, parts_text, heq, hwritten, List.map_append]
  refine .of_blank ?_ (leadsTo_placeFrom hlinks ?_ hupper ?_ (hplace ▸ hget))
  · intro part hpart
    obtain ⟨cs, hcs, rfl⟩ := List.mem_map.1 hpart
    rw [← isBlank_toList, String.toList_ofList]
    exact Path.saying_eq_nil_iff.1 hfront cs hcs
  · intro name hname
    obtain ⟨cs, hcs, rfl⟩ := List.mem_map.1 hname
    rw [String.toList_ofList]
    exact hnames cs hcs
  · intro name hname hup
    obtain ⟨cs, hcs, rfl⟩ := List.mem_map.1 hname
    refine hleads.size_le _ (List.mem_map_of_mem (List.mem_of_mem_filter (hsub.subset hcs))) ?_ hup
    rw [← isBlank_toList, String.toList_ofList]
    exact (hnames cs hcs).2

/-- By its text, the normal form of a path that stays below the root tells the place that the path
    tells exactly if the path does not rise by two folders. Where there are no links, the normal form
    leads to what the path leads to exactly if, besides, something is left of it. Of paths that do
    not rise so far, those with the same normal form tell the same place. -/
theorem stat_normalize_iff (hlinks : d.root.LinkFree) (hdeep : ¬d.ClimbsOut p) :
    (d.placeOf p.normalize = d.placeOf p ↔ ¬p.RisesTwice) ∧
    (∀ place t, d.stat p = .ok (place, t) → place = d.placeOf p ∧
      (d.stat p.normalize = .ok (place, t) ↔ ¬p.RisesTwice ∧ p.normalize ≠ ⟨""⟩)) ∧
    ∀ q, q.normalize = p.normalize → ¬p.RisesTwice → ¬q.RisesTwice →
      d.placeOf q = d.placeOf p := by
  have hplaces : d.placeOf p.normalize = d.placeOf p ↔ ¬p.RisesTwice :=
    ⟨fun heq hrises => placeOf_normalize_ne hrises hdeep heq, fun h => placeOf_normalize h d⟩
  refine ⟨hplaces, fun place t hstat => ?_, fun q heq hp hq => ?_⟩
  · obtain rfl := place_eq_of_stat hlinks hstat
    refine ⟨rfl, fun hnormal => ?_, fun ⟨hrises, hne⟩ => ?_⟩
    · have hsame := place_eq_of_stat hlinks hnormal
      refine ⟨hplaces.1 hsame.symm, fun hempty => ?_⟩
      -- The empty path leads nowhere.
      rw [hempty] at hnormal
      cases hnormal
    · have heq := placeOf_normalize hrises d
      have hget : d.root.get? (d.placeOf p.normalize) = some t := by
        rw [heq]
        exact get?_of_stat hstat
      rw [← heq]
      exact stat_normalize hlinks hstat hne hget
  · rw [← placeOf_normalize hq, heq, placeOf_normalize hp]

/-- A disk with two files of one name, two folders apart; paths start in the lower one. -/
def twoLevels : Disk where
  root := .folder [("y.ts", .file (.text "upper")),
    ("a", .folder [("b", .folder [("y.ts", .file (.text "lower"))])])]
  current := ["a", "b"]
  home := none

theorem linkFree_twoLevels : twoLevels.root.LinkFree :=
  Tree.linkFree_folder <| List.forall_mem_cons.2 ⟨Tree.linkFree_file _,
    List.forall_mem_singleton.2 <| Tree.linkFree_folder <|
      List.forall_mem_singleton.2 <| Tree.linkFree_folder <|
        List.forall_mem_singleton.2 <| Tree.linkFree_file _⟩

/-- A path that goes up by one folder and down again has a normal form that leads to the same. -/
theorem stat_normalize_twoLevels :
    (twoLevels.root.LinkFree ∧ ¬twoLevels.ClimbsOut ⟨"../b/./y.ts"⟩ ∧
      twoLevels.stat ⟨"../b/./y.ts"⟩ = .ok (["a", "b", "y.ts"], .file (.text "lower"))) ∧
    (⟨"../b/./y.ts"⟩ : Path).normalize = ⟨"../b/y.ts"⟩ ∧
      twoLevels.stat ⟨"../b/y.ts"⟩ = .ok (["a", "b", "y.ts"], .file (.text "lower")) := by
  have hnormal : (⟨"../b/./y.ts"⟩ : Path).normalize = ⟨"../b/y.ts"⟩ := by decide
  have hdeep : ¬twoLevels.ClimbsOut ⟨"../b/./y.ts"⟩ := by decide
  have hstat : twoLevels.stat ⟨"../b/./y.ts"⟩ =
      .ok (["a", "b", "y.ts"], .file (.text "lower")) := rfl
  have hrises : ¬(⟨"../b/./y.ts"⟩ : Path).RisesTwice := by decide
  refine ⟨⟨linkFree_twoLevels, hdeep, hstat⟩, hnormal, ?_⟩
  have hiff := ((stat_normalize_iff linkFree_twoLevels hdeep).2.1 _ _ hstat).2
  rw [← hnormal]
  exact hiff.2 ⟨hrises, by rw [hnormal]; decide⟩

/-- A path that goes up by two folders has the normal form of a file in the folder where it
    starts. -/
theorem normalize_denotes_other :
    (⟨"../../y.ts"⟩ : Path).normalize = (⟨"y.ts"⟩ : Path).normalize ∧
    twoLevels.root.LinkFree ∧ ¬twoLevels.ClimbsOut ⟨"../../y.ts"⟩ ∧
    twoLevels.stat ⟨"../../y.ts"⟩ = .ok (["y.ts"], .file (.text "upper")) ∧
    twoLevels.stat (⟨"../../y.ts"⟩ : Path).normalize =
      .ok (["a", "b", "y.ts"], .file (.text "lower")) :=
  ⟨by decide, linkFree_twoLevels, by decide, rfl, rfl⟩

end Autofix.Disk
