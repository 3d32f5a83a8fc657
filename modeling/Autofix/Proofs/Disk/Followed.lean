import Autofix.Proofs.Disk.Lookup
import Autofix.Proofs.Disk.Walk
import Mathlib.Data.Finset.Card
import Mathlib.Tactic.Linarith

/-!
# Walks through links come to an end

A walk that follows links has no tree to go down: a link may lead anywhere, also back to where the
walk came from. `WalksTo` is the walk as such, without a bound on its steps. What it does at a node
(`visit`) is to be done with it or to go into a folder (`Opens`); and it goes through a link only
into a folder that it is not inside of yet. So each link on a branch leaves fewer folders to come to
(`card_outside_cons_lt`), and between two links the walk goes down a tree: there is a number of
`steps` that is enough (`walksTo_filesIn`), and every walk below a folder comes to an end, with the
listing that is computed (`walksBelow_iff`).
-/

namespace Autofix.Disk

/-! ### Steps of a walk -/

/-- What a walk does at a node: it is done with it, or goes into a folder. -/
inductive Visit where
  | done (listing : Listing)
  | enter (place : Place) (folder : Tree)

/-- What a walk does at a node, while it is inside of some folders. -/
def visit (d : Disk) (inside : List Inside) (path : Path) (place : Place) : Tree → Visit
  | .file _ => .done (.ok [path], [])
  | .folder entries =>
    if path.isShort then .enter place (.folder entries)
    else .done (.error ⟨path, .nameTooLong⟩, [])
  | .link _ =>
    match d.stat path with
    | .error e => .done (.error ⟨path, e⟩, [])
    | .ok (place, t) =>
      if t.isFolder then
        match inside.find? fun outer => outer.place = place with
        | some outer => .done (.ok [], [loopWarning path outer.path])
        | none => .enter place t
      else .done (.ok [path], [])

/-- A walk through entries of a folder, from inside of some folders, comes to an end with a listing.
    What follows an error is gone through here, too, but leaves nothing in the listing. -/
inductive WalksTo (d : Disk) :
    List Inside → Path → Place → List (String × Tree) → Listing → Prop
  | nil {inside : List Inside} {path : Path} {place : Place} :
      WalksTo d inside path place [] (.ok [], [])
  | pass {inside : List Inside} {path : Path} {place : Place} {name : String} {t : Tree}
      {rest : List (String × Tree)} {a b : Listing}
      (hvisit : d.visit inside (path.join ⟨name⟩) (place ++ [name]) t = .done a)
      (hrest : WalksTo d inside path place rest b) :
      WalksTo d inside path place ((name, t) :: rest) (a.append fun _ => b)
  | enter {inside : List Inside} {path : Path} {place place' : Place} {name : String} {t t' : Tree}
      {rest : List (String × Tree)} {a b : Listing}
      (hvisit : d.visit inside (path.join ⟨name⟩) (place ++ [name]) t = .enter place' t')
      (hbelow : WalksTo d (⟨path.join ⟨name⟩, place'⟩ :: inside) (path.join ⟨name⟩) place'
        t'.children a)
      (hrest : WalksTo d inside path place rest b) :
      WalksTo d inside path place ((name, t) :: rest) (a.append fun _ => b)

variable {d : Disk} {inside : List Inside} {path : Path} {place place' : Place} {name : String}
  {t t' u : Tree} {entries : List (String × Tree)} {r a b : Listing} {fuel : ℕ}

theorem fileAt_succ : fileAt d inside path place (fuel + 1) t =
    match d.visit inside path place t with
    | .done listing => listing
    | .enter place' t' => filesIn d (⟨path, place'⟩ :: inside) path place' fuel t'.children := by
  cases t with
  | file content => rw [fileAt, visit]
  | folder entries =>
    rw [fileAt, visit]
    split_ifs <;> rfl
  | link target =>
    rw [fileAt, visit]
    rcases d.stat path with e | ⟨place', t⟩
    · rfl
    · dsimp only
      split_ifs
      · cases inside.find? fun outer => outer.place = place' <;> rfl
      · rfl

theorem WalksTo.unique (h : WalksTo d inside path place entries a)
    (h' : WalksTo d inside path place entries b) : a = b := by
  induction h generalizing b with
  | nil =>
    cases h'
    rfl
  | pass hvisit _ ih =>
    cases h' with
    | pass hvisit' hrest' =>
      obtain rfl := Visit.done.inj (hvisit.symm.trans hvisit')
      rw [ih hrest']
    | enter hvisit' _ _ => cases hvisit.symm.trans hvisit'
  | enter hvisit _ _ ihbelow ih =>
    cases h' with
    | pass hvisit' _ => cases hvisit.symm.trans hvisit'
    | enter hvisit' hbelow' hrest' =>
      obtain ⟨rfl, rfl⟩ := Visit.enter.inj (hvisit.symm.trans hvisit')
      rw [ihbelow hbelow', ih hrest']

/-! ### What a walk finds at a node -/

/-- A walk goes into a folder at a node: the one that stands there, or the one that a link there
    leads to, unless it is inside of that. -/
inductive Opens (d : Disk) (inside : List Inside) (path : Path) (place : Place) :
    Tree → Place → Tree → Prop
  | folder {entries : List (String × Tree)} :
      Opens d inside path place (.folder entries) place (.folder entries)
  | link {target : String} {place' : Place} {t : Tree} (hstat : d.stat path = .ok (place', t))
      (hfolder : t.isFolder) (hnew : ∀ outer ∈ inside, outer.place ≠ place') :
      Opens d inside path place (.link target) place' t

/-- A walk gets past a node: the path of a folder has to be short, and a link has to lead to
    something. -/
def Passable (d : Disk) (path : Path) : Tree → Prop
  | .file _ => True
  | .folder _ => path.isShort
  | .link _ => d.has path

/-- A walk lists a node: a file, or a link to something that is no folder. -/
def IsListed (d : Disk) (path : Path) : Tree → Prop
  | .file _ => True
  | .folder _ => False
  | .link _ => ∃ place t, d.stat path = .ok (place, t) ∧ t.isFolder = false

theorem Opens.unique {u u' : Tree} (h : d.Opens inside path place t place' u) {there : Place}
    (h' : d.Opens inside path place t there u') : there = place' ∧ u' = u := by
  cases h with
  | folder =>
    cases h'
    exact ⟨rfl, rfl⟩
  | link hstat =>
    cases h' with
    | link hstat' => exact Prod.mk.inj (Except.ok.inj (hstat'.symm.trans hstat))

theorem has_of_stat (hstat : d.stat path = .ok (place, t)) : d.has path := by
  rw [has, hstat]
  rfl

theorem not_has_of_stat {e : IoError} (hstat : d.stat path = .error e) : ¬d.has path := by
  rw [has, hstat]
  exact Bool.false_ne_true

theorem visit_eq_enter_iff : d.visit inside path place t = .enter place' t' ↔
    d.Opens inside path place t place' t' ∧ d.Passable path t := by
  constructor
  · intro h
    cases t with
    | file content => cases h
    | folder entries =>
      rw [visit] at h
      split_ifs at h with hshort
      obtain ⟨rfl, rfl⟩ := Visit.enter.inj h
      exact ⟨.folder, hshort⟩
    | link target =>
      rw [visit] at h
      rcases hstat : d.stat path with e | ⟨there, u⟩
      · simp [hstat] at h
      · simp only [hstat] at h
        split_ifs at h with hfolder
        -- A folder in which the walk already is would be passed over.
        cases hfind : inside.find? fun outer => outer.place = there with
        | some outer => simp [hfind] at h
        | none =>
          simp only [hfind] at h
          obtain ⟨rfl, rfl⟩ := Visit.enter.inj h
          exact ⟨.link hstat hfolder (by simpa using List.find?_eq_none.1 hfind), has_of_stat hstat⟩
  · rintro ⟨hopens, hpassable⟩
    cases hopens with
    | folder => exact if_pos hpassable
    | link hstat hfolder hnew =>
      have hfind : inside.find? (fun outer => outer.place = place') = none :=
        List.find?_eq_none.2 (by simpa using hnew)
      simp only [visit, hstat, if_pos hfolder, hfind]

/-- Where a walk goes into no folder, it cannot get past the node, or it lists the node or passes it
    over. -/
theorem visit_eq_done (h : d.visit inside path place t = .done a) :
    (¬d.Passable path t ∧ ∃ e, a.1 = .error e) ∨ d.Passable path t ∧
      (a.1 = .ok [path] ∧ d.IsListed path t ∨ a.1 = .ok [] ∧ ¬d.IsListed path t) := by
  cases t with
  | file content =>
    obtain rfl := Visit.done.inj h
    exact .inr ⟨trivial, .inl ⟨rfl, trivial⟩⟩
  | folder entries =>
    rw [visit] at h
    split_ifs at h with hshort
    obtain rfl := Visit.done.inj h
    exact .inl ⟨hshort, _, rfl⟩
  | link target =>
    rw [visit] at h
    rcases hstat : d.stat path with e | ⟨there, u⟩
    · simp only [hstat] at h
      obtain rfl := Visit.done.inj h
      exact .inl ⟨not_has_of_stat hstat, _, rfl⟩
    · simp only [hstat] at h
      refine .inr ⟨has_of_stat hstat, ?_⟩
      split_ifs at h with hfolder
      · cases hfind : inside.find? fun outer => outer.place = there with
        | none => simp [hfind] at h
        | some outer =>
          simp only [hfind] at h
          obtain rfl := Visit.done.inj h
          exact .inr ⟨rfl, by simp [IsListed, hstat, hfolder]⟩
      · obtain rfl := Visit.done.inj h
        exact .inl ⟨rfl, there, u, hstat, Bool.eq_false_of_not_eq_true hfolder⟩

/-! ### Every walk comes to an end -/

mutual

/-- The places of the folders in a tree. -/
def Tree.folders : Tree → List Place
  | .file _ => []
  | .link _ => []
  | .folder entries => [] :: foldersIn entries

def Tree.foldersIn : List (String × Tree) → List Place
  | [] => []
  | (name, t) :: rest => t.folders.map (name :: ·) ++ foldersIn rest

end

mutual

theorem Tree.length_folders_le : (t : Tree) → t.folders.length ≤ t.count
  | .file _ => Nat.zero_le _
  | .link _ => Nat.zero_le _
  | .folder entries => by
    rw [folders, count, List.length_cons, Nat.add_comm]
    exact Nat.add_le_add_left (length_foldersIn_le entries) 1

theorem Tree.length_foldersIn_le : (entries : List (String × Tree)) →
    (foldersIn entries).length ≤ countAll entries
  | [] => Nat.le_refl 0
  | (_, t) :: rest => by
    rw [foldersIn, countAll, List.length_append, List.length_map]
    exact Nat.add_le_add (length_folders_le t) (length_foldersIn_le rest)

end

theorem Tree.mem_foldersIn {rest : Place} (hmem : (name, t) ∈ entries) (h : rest ∈ t.folders) :
    name :: rest ∈ foldersIn entries := by
  induction entries with
  | nil => exact absurd hmem List.not_mem_nil
  | cons entry entries ih =>
    rw [foldersIn]
    rcases List.mem_cons.1 hmem with rfl | hmem
    · exact List.mem_append_left _ (List.mem_map_of_mem h)
    · exact List.mem_append_right _ (ih hmem)

theorem Tree.mem_folders (hget : t.get? place = some u) (hfolder : u.isFolder) :
    place ∈ t.folders := by
  induction place generalizing t with
  | nil =>
    obtain rfl := Option.some.inj hget
    cases t with
    | file | link => cases hfolder
    | folder entries =>
      rw [folders]
      exact List.mem_cons_self
  | cons name place ih =>
    cases t with
    | file | link => cases hget
    | folder entries =>
      obtain ⟨v, hlookup, hv⟩ := Option.bind_eq_some_iff.1 hget
      obtain ⟨front, tail, rfl, -⟩ := List.lookup_eq_some_iff.1 hlookup
      rw [folders]
      exact List.mem_cons_of_mem _ (mem_foldersIn (by simp) (ih hv))

/-- The folders of a disk that a walk is not inside of. -/
def outside (d : Disk) (inside : List Inside) : Finset Place :=
  d.root.folders.toFinset \ (inside.map (·.place)).toFinset

theorem card_outside_le (d : Disk) (inside : List Inside) :
    (d.outside inside).card ≤ d.root.count :=
  calc (d.outside inside).card
    _ ≤ d.root.folders.toFinset.card := Finset.card_le_card Finset.sdiff_subset
    _ ≤ d.root.folders.length := List.toFinset_card_le _
    _ ≤ d.root.count := d.root.length_folders_le

theorem outside_cons_subset (path : Path) :
    d.outside (⟨path, place⟩ :: inside) ⊆ d.outside inside := by
  intro here
  simp +contextual [outside]

/-- Fewer are left once a link has been followed to one of them. -/
theorem card_outside_cons_lt (path : Path) (hget : d.root.get? place = some t)
    (hfolder : t.isFolder) (hnew : ∀ outer ∈ inside, outer.place ≠ place) :
    (d.outside (⟨path, place⟩ :: inside)).card < (d.outside inside).card := by
  refine Finset.card_lt_card ((Finset.ssubset_iff_of_subset (outside_cons_subset path)).2
    ⟨place, ?_, by simp [outside]⟩)
  simpa [outside, Tree.mem_folders hget hfolder] using hnew

/-- Steps that are enough for the walk through entries of a folder: two for each node, and as many
    for the whole tree whenever a link is followed. -/
def steps (d : Disk) (inside : List Inside) (entries : List (String × Tree)) : ℕ :=
  2 * Tree.countAll entries + 2 * d.root.count * (d.outside inside).card

/-- Going into a folder takes fewer steps than the node at which the walk goes into it. -/
theorem steps_enter (h : d.visit inside path place t = .enter place' t') :
    d.steps (⟨path, place'⟩ :: inside) t'.children + 2 ≤
      2 * t.count + 2 * d.root.count * (d.outside inside).card := by
  have hchildren := t'.countAll_children_lt
  rw [steps]
  cases (visit_eq_enter_iff.1 h).1 with
  | folder =>
    have hsubset : d.outside (⟨path, place⟩ :: inside) ⊆ d.outside inside := outside_cons_subset path
    have hle := Nat.mul_le_mul_left (2 * d.root.count) (Finset.card_le_card hsubset)
    omega
  | link hstat hfolder hnew =>
    have hcount := Tree.count_le_of_get? (get?_of_stat hstat)
    have hlt := Nat.mul_le_mul_left (2 * d.root.count)
      (card_outside_cons_lt path (get?_of_stat hstat) hfolder hnew)
    rw [Nat.succ_eq_add_one, Nat.mul_add_one] at hlt
    rw [Tree.count]
    omega

theorem walksTo_filesIn (h : d.steps inside entries ≤ fuel) :
    WalksTo d inside path place entries (filesIn d inside path place fuel entries) := by
  induction fuel using Nat.strong_induction_on generalizing inside path place entries with
  | _ fuel ih =>
    cases entries with
    | nil =>
      cases fuel <;> exact .nil
    | cons entry rest =>
      obtain ⟨name, t⟩ := entry
      have hpos := t.countAll_children_lt
      rw [steps, Tree.countAll] at h
      obtain ⟨fuel, rfl⟩ : ∃ n, fuel = n + 2 := ⟨fuel - 2, by omega⟩
      have hfuel : d.steps inside rest ≤ fuel + 1 := by
        rw [steps]
        omega
      have hrest : WalksTo d inside path place rest _ := ih (fuel + 1) (Nat.lt_succ_self _) hfuel
      rw [filesIn, fileAt_succ]
      cases hvisit : d.visit inside (path.join ⟨name⟩) (place ++ [name]) t with
      | done listing => exact .pass hvisit hrest
      | enter place' t' =>
        have hsteps := steps_enter hvisit
        exact .enter hvisit (ih fuel (by omega) (by omega)) hrest

/-- The walk below a folder comes to an end with a listing. -/
inductive WalksBelow (d : Disk) (dir : Path) : Listing → Prop
  | missing {e : IoError} (hstat : d.stat dir = .error e) : WalksBelow d dir (.error ⟨dir, e⟩, [])
  | folder {place : Place} {t : Tree} {r : Listing} (hstat : d.stat dir = .ok (place, t))
      (hwalk : WalksTo d [⟨dir, place⟩] dir place t.children r) : WalksBelow d dir r

theorem walksBelow_iff : d.WalksBelow path r ↔ r = d.filesBelow path := by
  have hfuel : ∀ place t, d.stat path = .ok (place, t) →
      WalksTo d [⟨path, place⟩] path place t.children
        (filesIn d [⟨path, place⟩] path place d.walkBound t.children) := fun place t hstat => by
    refine walksTo_filesIn ?_
    have hcount := Tree.count_le_of_get? (get?_of_stat hstat)
    have hchildren := t.countAll_children_lt
    have hcard := Nat.mul_le_mul_left (2 * d.root.count) (d.card_outside_le [⟨path, place⟩])
    rw [steps, walkBound]
    nlinarith
  rw [filesBelow]
  constructor
  · rintro (hstat | ⟨hstat, hwalk⟩)
    · rw [hstat]
    · rw [hstat]
      exact hwalk.unique (hfuel _ _ hstat)
  · rintro rfl
    rcases hstat : d.stat path with e | ⟨place, t⟩
    · exact .missing hstat
    · exact .folder hstat (hfuel place t hstat)

end Autofix.Disk
