import Autofix.Proofs.Disk.Descend
import Autofix.Proofs.Disk.Followed
import Autofix.Proofs.Path.Order

/-!
# What a walk through links lists

A walk that follows links comes to the entries of the folders that it goes into (`Comes`). If it
gets past all of them, its listing has the files among them, and else there is no listing
(`WalksTo.tells`). The files stand in the order of paths (`WalksTo.ascendsBelow`), because the names
of a folder do. A path in the listing is that of a folder which was looked up, with names of what is
below it in the tree (`Comes.exists_descend`); so it leads to what stands there
(`stat_descend_of_file`).

Below a folder, the walk comes to what it can see from there (`Sees`), and there is a listing exactly
if it gets past all of that (`exists_filesBelow_iff`). It does unless something is wrong that is no
loop, or a link leads in a circle (`walkable_iff`).
-/

namespace Autofix.Disk

variable {d : Disk} {inside : List Inside} {path p : Path} {place place' : Place} {name : String}
  {t t' v : Tree} {entries rest : List (String × Tree)} {r a b : Listing} {files : List Path}

/-! ### What a walk comes to -/

theorem append_eq_ok_iff : (a.append fun _ => b).1 = .ok files ↔
    ∃ first more, a.1 = .ok first ∧ b.1 = .ok more ∧ files = first ++ more := by
  rcases a with ⟨e | first, told⟩
  · simp [Listing.append]
  · rcases b with ⟨e | more, told'⟩
    · simp [Listing.append, Except.map]
    · simp [Listing.append, Except.map, eq_comm]

/-- What a walk through entries of a folder comes to, as long as it goes on: the path and the node,
    which may be a link. -/
inductive Comes (d : Disk) :
    List Inside → Path → Place → List (String × Tree) → Path → Tree → Prop
  | here {inside : List Inside} {path : Path} {place : Place} {entries : List (String × Tree)}
      {name : String} {t : Tree} (hmem : (name, t) ∈ entries) :
      Comes d inside path place entries (path.join ⟨name⟩) t
  | further {inside : List Inside} {path p : Path} {place place' : Place}
      {entries : List (String × Tree)} {name : String} {t t' v : Tree} (hmem : (name, t) ∈ entries)
      (hopens : d.Opens inside (path.join ⟨name⟩) (place ++ [name]) t place' t')
      (hbelow : Comes d (⟨path.join ⟨name⟩, place'⟩ :: inside) (path.join ⟨name⟩) place'
        t'.children p v) : Comes d inside path place entries p v

theorem comes_cons_iff : Comes d inside path place ((name, t) :: rest) p v ↔
    (p = path.join ⟨name⟩ ∧ v = t) ∨
      (∃ place' t', d.Opens inside (path.join ⟨name⟩) (place ++ [name]) t place' t' ∧
        Comes d (⟨path.join ⟨name⟩, place'⟩ :: inside) (path.join ⟨name⟩) place' t'.children p v) ∨
      Comes d inside path place rest p v := by
  constructor
  · intro h
    cases h with
    | here hmem =>
      rcases List.mem_cons.1 hmem with heq | hmem
      · obtain ⟨rfl, rfl⟩ := Prod.mk.inj heq
        exact .inl ⟨rfl, rfl⟩
      · exact .inr (.inr (.here hmem))
    | further hmem hopens hbelow =>
      rcases List.mem_cons.1 hmem with heq | hmem
      · obtain ⟨rfl, rfl⟩ := Prod.mk.inj heq
        exact .inr (.inl ⟨_, _, hopens, hbelow⟩)
      · exact .inr (.inr (.further hmem hopens hbelow))
  · rintro (⟨rfl, rfl⟩ | ⟨place', t', hopens, hbelow⟩ | hrest)
    · exact .here List.mem_cons_self
    · exact .further List.mem_cons_self hopens hbelow
    · cases hrest with
      | here hmem => exact .here (List.mem_cons_of_mem _ hmem)
      | further hmem hopens hbelow => exact .further (List.mem_cons_of_mem _ hmem) hopens hbelow

theorem not_comes_nil : ¬Comes d inside path place [] p v := by
  rintro (hmem | hmem) <;> exact List.not_mem_nil hmem

/-- A listing of what has been met on a walk: there is one if the walk got past all of it, and then
    it has the files among it. -/
structure Tells (d : Disk) (met : Path → Tree → Prop) (r : Listing) : Prop where
  isOk_iff : (∃ files, r.1 = .ok files) ↔ ∀ p v, met p v → d.Passable p v
  mem_iff : ∀ files, r.1 = .ok files → ∀ p, p ∈ files ↔ ∃ v, met p v ∧ d.IsListed p v

namespace Tells

variable {met met' : Path → Tree → Prop}

theorem append (h : d.Tells met a) (h' : d.Tells met' b) :
    d.Tells (fun p v => met p v ∨ met' p v) (a.append fun _ => b) where
  isOk_iff := by
    have hboth : (∃ files, (a.append fun _ => b).1 = .ok files) ↔
        (∃ files, a.1 = .ok files) ∧ ∃ files, b.1 = .ok files := by
      simp only [append_eq_ok_iff]
      constructor
      · rintro ⟨-, first, more, hfirst, hmore, -⟩
        exact ⟨⟨first, hfirst⟩, more, hmore⟩
      · rintro ⟨⟨first, hfirst⟩, more, hmore⟩
        exact ⟨_, first, more, hfirst, hmore, rfl⟩
    rw [hboth, h.isOk_iff, h'.isOk_iff]
    exact ⟨fun hmet p v => Or.rec (hmet.1 p v) (hmet.2 p v),
      fun hmet => ⟨fun p v hp => hmet p v (.inl hp), fun p v hp => hmet p v (.inr hp)⟩⟩
  mem_iff files hok p := by
    obtain ⟨first, more, hfirst, hmore, rfl⟩ := append_eq_ok_iff.1 hok
    rw [List.mem_append, h.mem_iff first hfirst, h'.mem_iff more hmore, ← exists_or]
    simp only [or_and_right]

/-- What is met besides, passed and not listed, makes no difference. -/
theorem beside (h : d.Tells met' a) (hmet : ∀ p v, met p v → d.Passable p v ∧ ¬d.IsListed p v) :
    d.Tells (fun p v => met p v ∨ met' p v) a where
  isOk_iff := by
    rw [h.isOk_iff]
    exact ⟨fun hmet' p v => Or.rec (fun hp => (hmet p v hp).1) (hmet' p v),
      fun hall p v hp => hall p v (.inr hp)⟩
  mem_iff files hok p := by
    rw [h.mem_iff files hok]
    refine exists_congr fun v => and_congr_left fun hlisted => ?_
    exact ⟨.inr, fun hp => hp.resolve_left fun hmet' => (hmet p v hmet').2 hlisted⟩

/-- Where the walk does not get past what it meets, there is no listing. -/
theorem of_error {e : WalkError} (he : a.1 = .error e) (hmet : met p v)
    (hpassable : ¬d.Passable p v) : d.Tells met a where
  isOk_iff := iff_of_false (fun ⟨_, hok⟩ => nomatch he.symm.trans hok)
    fun hall => hpassable (hall p v hmet)
  mem_iff _ hok := nomatch he.symm.trans hok

theorem congr (h : d.Tells met a) (hmet : ∀ p v, met' p v ↔ met p v) : d.Tells met' a := by
  obtain rfl : met' = met := funext fun p => funext fun v => propext (hmet p v)
  exact h

end Tells

/-- The walk goes into no folder at a node that it gets past. -/
theorem tells_of_visit_eq_done (h : d.visit inside path place t = .done a)
    (hpassable : d.Passable path t) : d.Tells (fun p v => p = path ∧ v = t) a := by
  have hmet : ∀ p v, p = path ∧ v = t → d.Passable p v := by
    rintro _ _ ⟨rfl, rfl⟩
    exact hpassable
  obtain ⟨-, ⟨hfiles, hlisted⟩ | ⟨hfiles, hlisted⟩⟩ :=
    (visit_eq_done h).resolve_left fun hnot => hnot.1 hpassable
  all_goals
    refine ⟨iff_of_true ⟨_, hfiles⟩ hmet, fun files hok p => ?_⟩
    obtain rfl := Except.ok.inj (hfiles.symm.trans hok)
    simp +contextual [hlisted]

/-- What a walk goes into is not listed. -/
theorem Opens.not_isListed (h : d.Opens inside path place t place' t') : ¬d.IsListed path t := by
  cases h with
  | folder => exact id
  | link hstat hfolder =>
    rintro ⟨there, u, hstat', hleaf⟩
    obtain ⟨rfl, rfl⟩ := Prod.mk.inj (Except.ok.inj (hstat'.symm.trans hstat))
    exact Bool.false_ne_true (hleaf.symm.trans hfolder)

/-- A walk tells of what it comes to. -/
theorem WalksTo.tells (h : WalksTo d inside path place entries r) :
    d.Tells (Comes d inside path place entries) r := by
  induction h with
  | nil =>
    refine ⟨iff_of_true ⟨_, rfl⟩ fun _ _ h => absurd h not_comes_nil, fun files hok p => ?_⟩
    obtain rfl := Except.ok.inj hok
    simp [not_comes_nil]
  | @pass inside path place name t rest a b hvisit hrest ih =>
    -- Past the node the rest tells what it does alone; otherwise the walk ends with an error.
    by_cases hpassable : d.Passable (path.join ⟨name⟩) t
    · refine ((tells_of_visit_eq_done hvisit hpassable).append ih).congr fun p v =>
        comes_cons_iff.trans (or_congr_right ((or_iff_right ?_).trans Iff.rfl))
      rintro ⟨place', t', hopens, -⟩
      cases hvisit.symm.trans (visit_eq_enter_iff.2 ⟨hopens, hpassable⟩)
    · obtain ⟨e, he⟩ := ((visit_eq_done hvisit).resolve_right fun h => hpassable h.1).2
      have herror : (a.append fun _ => b).1 = .error e := by
        rw [Listing.append, he]
      exact .of_error herror (.here List.mem_cons_self) hpassable
  | @enter inside path place place' name t t' rest a b hvisit hbelow hrest ihbelow ih =>
    obtain ⟨hopens, hpassable⟩ := visit_eq_enter_iff.1 hvisit
    -- The node itself is met, too, but it is not listed and adds nothing to the files.
    have hhere : ∀ p v, p = path.join ⟨name⟩ ∧ v = t → d.Passable p v ∧ ¬d.IsListed p v := by
      rintro _ _ ⟨rfl, rfl⟩
      exact ⟨hpassable, hopens.not_isListed⟩
    refine ((ihbelow.beside hhere).append ih).congr fun p v => comes_cons_iff.trans ?_
    rw [or_assoc]
    refine or_congr_right (or_congr_left ?_)
    constructor
    · rintro ⟨there, u, hopens', hcomes⟩
      obtain ⟨rfl, rfl⟩ := hopens.unique hopens'
      exact hcomes
    · exact fun hcomes => ⟨_, _, hopens, hcomes⟩

/-! ### The order of a listing -/

/-- Files in the order of paths, each below one of some names of a folder. -/
structure AscendsBelow (path : Path) (names : List String) (files : List Path) : Prop where
  pairwise : files.Pairwise fun p q => p.compare q = .lt
  below : ∀ p ∈ files, ∃ name ∈ names, path.components ++ [.name name] <+: p.components

namespace AscendsBelow

theorem nil (names : List String) : AscendsBelow path names [] :=
  ⟨.nil, fun _ hp => absurd hp List.not_mem_nil⟩

/-- The files below one name stand in front of those below the names that follow. -/
theorem append {names : List String} {first more : List Path} (hlt : ∀ other ∈ names, name < other)
    (hfirst : AscendsBelow path [name] first) (hmore : AscendsBelow path names more) :
    AscendsBelow path (name :: names) (first ++ more) where
  pairwise := by
    refine List.pairwise_append.2 ⟨hfirst.pairwise, hmore.pairwise, fun p hp q hq => ?_⟩
    obtain ⟨_, hmem, hprefix⟩ := hfirst.below p hp
    obtain rfl := List.mem_singleton.1 hmem
    obtain ⟨other, hother, hprefix'⟩ := hmore.below q hq
    exact Path.compare_of_prefix (hlt other hother) hprefix hprefix'
  below p hp := by
    rcases List.mem_append.1 hp with hp | hp
    · obtain ⟨_, hmem, hprefix⟩ := hfirst.below p hp
      exact ⟨name, List.mem_cons_self, List.mem_singleton.1 hmem ▸ hprefix⟩
    · obtain ⟨other, hother, hprefix⟩ := hmore.below p hp
      exact ⟨other, List.mem_cons_of_mem _ hother, hprefix⟩

end AscendsBelow

theorem components_join_entry (hname : Path.AreEntries [name]) :
    (path.join ⟨name⟩).components = path.components ++ [.name name] :=
  Path.components_descend hname path

/-- A walk lists files in the order of paths. -/
theorem WalksTo.ascendsBelow (hroot : d.root.WellNamed) (h : WalksTo d inside path place entries r)
    (hascending : Dictionary.Ascending entries)
    (hnames : ∀ name u, (name, u) ∈ entries → Path.AreEntries [name] ∧ u.WellNamed)
    (hok : r.1 = .ok files) : AscendsBelow path (entries.map (·.1)) files := by
  induction h generalizing files with
  | nil =>
    obtain rfl := Except.ok.inj hok
    exact .nil _
  | @pass inside path place name t rest a b hvisit hrest ih =>
    obtain ⟨first, more, hfirst, hmore, rfl⟩ := append_eq_ok_iff.1 hok
    have hmore := ih hascending.tail
      (fun name u hmem => hnames name u (List.mem_cons_of_mem _ hmem)) hmore
    refine .append (List.forall_mem_map.2 (List.pairwise_cons.1 hascending).1) ?_ hmore
    -- All that is listed here is at or below the first name, which comes before the others.
    have hjoin : (path.join ⟨name⟩).components = _ :=
      components_join_entry (hnames name t List.mem_cons_self).1
    rcases visit_eq_done hvisit with ⟨-, e, he⟩ | ⟨-, ⟨hfiles, -⟩ | ⟨hfiles, -⟩⟩
    · cases hfirst.symm.trans he
    · obtain rfl := Except.ok.inj (hfirst.symm.trans hfiles)
      refine ⟨List.pairwise_singleton _ _, fun p hp => ⟨name, List.mem_cons_self, ?_⟩⟩
      rw [List.mem_singleton.1 hp, hjoin]
    · obtain rfl := Except.ok.inj (hfirst.symm.trans hfiles)
      exact .nil _
  | @enter inside path place place' name t t' rest a b hvisit hbelow hrest ihbelow ih =>
    obtain ⟨first, more, hfirst, hmore, rfl⟩ := append_eq_ok_iff.1 hok
    have hmore := ih hascending.tail
      (fun name u hmem => hnames name u (List.mem_cons_of_mem _ hmem)) hmore
    obtain ⟨hname, ht⟩ := hnames name t List.mem_cons_self
    -- What is entered may be the target of a link, somewhere else on the disk.
    have ht' : t'.WellNamed := by
      cases (visit_eq_enter_iff.1 hvisit).1 with
      | folder => exact ht
      | link hstat => exact hroot.of_get? (get?_of_stat hstat)
    have hfirst := ihbelow t'.ascending_children (fun _ _ => ht'.child) hfirst
    refine .append (List.forall_mem_map.2 (List.pairwise_cons.1 hascending).1) ?_ hmore
    refine ⟨hfirst.pairwise, fun p hp => ⟨name, List.mem_cons_self, ?_⟩⟩
    obtain ⟨_, -, hprefix⟩ := hfirst.below p hp
    rw [components_join_entry hname] at hprefix
    exact (List.prefix_append _ _).trans hprefix

/-! ### Where listed paths lead -/

/-- What a walk comes to has its path from a folder that was looked up, and the names below it. -/
theorem Comes.exists_descend (h : Comes d inside path place entries p v)
    (hpath : ∃ base here folder names, d.stat base = .ok (here, folder) ∧
      path = base.descend names ∧
      ∀ name u, (name, u) ∈ entries → folder.get? (names ++ [name]) = some u) :
    ∃ base here folder names, names ≠ [] ∧ d.stat base = .ok (here, folder) ∧
      p = base.descend names ∧ folder.get? names = some v := by
  have hjoin : ∀ (base : Path) names name,
      (base.descend names).join ⟨name⟩ = base.descend (names ++ [name]) := fun base names name => by
    rw [Path.descend, Path.descend, List.foldl_append]
    rfl
  induction h with
  | @here inside path place entries name t hmem =>
    obtain ⟨base, here, folder, names, hstat, rfl, hentries⟩ := hpath
    exact ⟨base, here, folder, names ++ [name], by simp, hstat, hjoin base names name,
      hentries name t hmem⟩
  | @further inside path p place place' entries name t t' v hmem hopens hbelow ih =>
    obtain ⟨base, here, folder, names, hstat, rfl, hentries⟩ := hpath
    cases hopens with
    | @folder children =>
      refine ih ⟨base, here, folder, names ++ [name], hstat, hjoin base names name,
        fun name' u hchild => ?_⟩
      rw [Tree.get?_append, hentries name _ hmem, Option.bind_some]
      exact Tree.mem_children_iff.1 hchild
    | link hlink hfolder hnew =>
      exact ih ⟨_, _, _, [], hlink, rfl, fun name' u hchild => Tree.mem_children_iff.1 hchild⟩

/-- Where a path leads to something, so it does if a link at its end is not followed. -/
theorem exists_follow_false {root : Tree}
    {jump jump' : Place → List String → Except IoError Found} {found : Found}
    (hjump : ∀ here parts found, jump here parts = .ok found →
      ∃ found', jump' here parts = .ok found') {here : Place} {parts : List String}
    (h : follow root true jump here parts = .ok found) :
    ∃ found', follow root false jump' here parts = .ok found' := by
  induction parts generalizing here with
  | nil => exact ⟨found, h⟩
  | cons part parts ih =>
    obtain ⟨next, hon⟩ | ⟨target, start, hto⟩ | ⟨rfl, hend, -⟩ := follow_cons_cases h
    · rw [hon] at h ⊢
      exact ih h
    · rw [hto, Bool.not_true, if_neg (by simp)] at h
      rw [hto]
      split_ifs
      · exact ⟨_, rfl⟩
      · exact hjump _ _ _ h
    · exact ⟨found, hend false jump'⟩

theorem exists_find_false {found : Found} (h : d.find true p = .ok found) :
    ∃ found', d.find false p = .ok found' := by
  have hresolve : ∀ links here parts found, resolve d.root true links here parts = .ok found →
      ∃ found', resolve d.root false links here parts = .ok found' := by
    intro links
    induction links with
    | zero => exact fun here parts found h => exists_follow_false (fun _ _ _ h => by cases h) h
    | succ links ih => exact fun here parts found h => exists_follow_false ih h
  rw [find] at h ⊢
  split_ifs at h ⊢
  all_goals exact hresolve _ _ _ _ h

/-- A path made of the names of a file below a folder leads to this file, if it leads anywhere. -/
theorem stat_descend_of_file (hroot : d.root.WellNamed) {base : Path} {here : Place} {folder : Tree}
    {names : List String} {content : Content} (hne : names ≠ [])
    (hstat : d.stat base = .ok (here, folder)) (hget : folder.get? names = some (.file content))
    (h : d.stat (base.descend names) = .ok (place, t)) : t = .file content := by
  have hnames : Path.AreEntries names := hroot.of_get? (get?_of_stat hstat) names _ hget
  obtain ⟨found, hfound⟩ := exists_find_false (stat_eq_ok_iff.1 h)
  obtain rfl := find_descend hnames hne hstat hget hfound
  exact (Prod.mk.inj (Except.ok.inj (h.symm.trans (stat_of_find_false (fun _ => Tree.noConfusion) hfound)))).2

/-! ### Below a folder -/

/-- The walk below a folder comes to a node, through folders and through links to folders that it is
    not inside of. -/
def Sees (d : Disk) (dir p : Path) (v : Tree) : Prop :=
  ∃ place t, d.stat dir = .ok (place, t) ∧ d.Comes [⟨dir, place⟩] dir place t.children p v

/-- The walk below a folder gets past everything that it comes to. -/
def Walkable (d : Disk) (dir : Path) : Prop :=
  d.has dir ∧ ∀ p v, d.Sees dir p v → d.Passable p v

/-- A link leads from link to link without an end: however many have been followed, there is a
    further one. -/
def Circles (d : Disk) (p : Path) : Tree → Prop
  | .link _ => ∀ links, resolve d.root true links (if p.isAbsolute then [] else d.current)
      (parts p.text) = .error .tooManyLinks
  | _ => False

/-- The walk below a folder gets past everything that it comes to, but for links that lead in a
    circle. -/
def OnlyLoops (d : Disk) (dir : Path) : Prop :=
  d.has dir ∧ ∀ p v, d.Sees dir p v → d.Passable p v ∨ d.Circles p v

theorem Circles.not_passable (h : d.Circles p v) : ¬d.Passable p v := by
  cases v with
  | file | folder => exact h.elim
  | link target =>
    rw [Passable, has]
    rcases hstat : d.stat p with e | ⟨place, t⟩
    · exact Bool.false_ne_true
    · have hfind := stat_eq_ok_iff.1 hstat
      have hlimit := h linkLimit
      rw [find, hlimit] at hfind
      split_ifs at hfind

theorem walkable_iff :
    d.Walkable path ↔ d.OnlyLoops path ∧ ∀ p v, d.Sees path p v → ¬d.Circles p v := by
  constructor
  · rintro ⟨hdir, hall⟩
    exact ⟨⟨hdir, fun p v h => .inl (hall p v h)⟩, fun p v h hcircle =>
      hcircle.not_passable (hall p v h)⟩
  · rintro ⟨⟨hdir, hall⟩, hnone⟩
    exact ⟨hdir, fun p v h => (hall p v h).resolve_right (hnone p v h)⟩

theorem sees_iff (hstat : d.stat path = .ok (place, t)) :
    d.Sees path p v ↔ d.Comes [⟨path, place⟩] path place t.children p v := by
  constructor
  · rintro ⟨there, u, hstat', hcomes⟩
    obtain ⟨rfl, rfl⟩ := Prod.mk.inj (Except.ok.inj (hstat.symm.trans hstat'))
    exact hcomes
  · exact fun hcomes => ⟨place, t, hstat, hcomes⟩

/-- What has some names below a folder is come to under these names. -/
theorem comes_of_get? {names : List String} (hne : names ≠ []) (hget : t.get? names = some v) :
    d.Comes inside path place t.children (path.descend names) v := by
  induction names generalizing inside path place t with
  | nil => exact absurd rfl hne
  | cons name names ih =>
    rw [Tree.get?_cons] at hget
    obtain ⟨u, hu, hv⟩ := Option.bind_eq_some_iff.1 hget
    have hmem := Tree.mem_children_iff.2 hu
    rcases eq_or_ne names [] with rfl | hne'
    · obtain rfl := Option.some.inj hv
      exact .here hmem
    · have hfolder := Tree.isFolder_of_get? hv hne'
      cases u with
      | file | link => cases hfolder
      | folder entries => exact .further hmem .folder (ih hne' hv)

theorem filesBelow_of_error {e : IoError} (hstat : d.stat path = .error e) :
    d.filesBelow path = (.error ⟨path, e⟩, []) := by
  rw [filesBelow, hstat]

/-- The walk below a folder is one through its entries. -/
theorem walksTo_filesBelow (hstat : d.stat path = .ok (place, t)) :
    WalksTo d [⟨path, place⟩] path place t.children (d.filesBelow path) := by
  have hbelow : d.WalksBelow path (d.filesBelow path) := walksBelow_iff.2 rfl
  generalize d.filesBelow path = r at hbelow ⊢
  cases hbelow with
  | missing hstat' => cases hstat.symm.trans hstat'
  | folder hstat' hwalk =>
    obtain ⟨rfl, rfl⟩ := Prod.mk.inj (Except.ok.inj (hstat.symm.trans hstat'))
    exact hwalk

/-- There is a listing below a folder if the walk gets past everything. -/
theorem exists_filesBelow_iff : (∃ files, (d.filesBelow path).1 = .ok files) ↔ d.Walkable path := by
  rcases hstat : d.stat path with e | ⟨place, t⟩
  · rw [filesBelow_of_error hstat]
    exact iff_of_false nofun fun h => not_has_of_stat hstat h.1
  · rw [(walksTo_filesBelow hstat).tells.isOk_iff, Walkable, and_iff_right (has_of_stat hstat)]
    simp only [sees_iff hstat]

/-- The listing has the files that the walk has come to. -/
theorem mem_filesBelow_iff (hok : (d.filesBelow path).1 = .ok files) :
    p ∈ files ↔ ∃ v, d.Sees path p v ∧ d.IsListed p v := by
  rcases hstat : d.stat path with e | ⟨place, t⟩
  · rw [filesBelow_of_error hstat] at hok
    cases hok
  · simp only [(walksTo_filesBelow hstat).tells.mem_iff files hok p, sees_iff hstat]

/-- The listing is in the order of paths. -/
theorem pairwise_filesBelow (hroot : d.root.WellNamed) (hok : (d.filesBelow path).1 = .ok files) :
    files.Pairwise fun p q => p.compare q = .lt := by
  rcases hstat : d.stat path with e | ⟨place, t⟩
  · rw [filesBelow_of_error hstat] at hok
    cases hok
  · have ht : t.WellNamed := hroot.of_get? (get?_of_stat hstat)
    exact ((walksTo_filesBelow hstat).ascendsBelow hroot t.ascending_children
      (fun _ _ => ht.child) hok).pairwise

/-- Nothing in the listing leads to a folder. -/
theorem isFolder_of_mem_filesBelow (hroot : d.root.WellNamed)
    (hok : (d.filesBelow path).1 = .ok files) (hp : p ∈ files)
    (hstat : d.stat p = .ok (place, t)) : t.isFolder = false := by
  obtain ⟨v, ⟨there, u, hdir, hcomes⟩, hlisted⟩ := (mem_filesBelow_iff hok).1 hp
  cases v with
  | file content =>
    obtain ⟨base, here, folder, names, hne, hbase, rfl, hget⟩ := hcomes.exists_descend
      ⟨path, there, u, [], hdir, rfl, fun _ _ => Tree.mem_children_iff.1⟩
    obtain rfl := stat_descend_of_file hroot hne hbase hget hstat
    rfl
  | folder entries => exact hlisted.elim
  | link target =>
    obtain ⟨_, _, hstat', hleaf⟩ := hlisted
    obtain ⟨rfl, rfl⟩ := Prod.mk.inj (Except.ok.inj (hstat.symm.trans hstat'))
    exact hleaf

end Autofix.Disk
