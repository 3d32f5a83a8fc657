import Autofix.Disk.Walk
import Autofix.Proofs.Dictionary
import Autofix.Proofs.Disk.Rewriting
import Autofix.Proofs.Path.Normal

/-!
# What a walk meets

A walk that follows no links meets what lies at and below a folder, as far as the names on the way
are accepted (`Disk.Meets`): it has enough fuel to get there (`Disk.mem_entries_iff`), and it meets
nothing twice (`Disk.pairwise_entries`).
-/

namespace Autofix.Disk

variable {t u : Tree} {place : Place} {name : String} {keep : String → Bool} {d : Disk}
  {base path : Path} {e : Entry}

/-! ### Folders -/

/-- The names in a tree are such as entries of folders may have. -/
def Tree.WellNamed (t : Tree) : Prop := ∀ place u, t.get? place = some u → Path.AreEntries place

theorem Tree.ascending_children (t : Tree) : Dictionary.Ascending t.children := by
  cases t with
  | file | link => exact Dictionary.ascending_nil
  | folder entries =>
    rw [children]
    induction entries with
    | nil => exact Dictionary.ascending_nil
    | cons entry entries ih => exact ih.insert entry.1 entry.2

/-- Entries that ascend are listed as they are. -/
theorem Tree.children_folder {entries : List (String × Tree)}
    (h : Dictionary.Ascending entries) : (folder entries).children = entries := by
  rw [children]
  induction entries with
  | nil => rfl
  | cons entry entries ih =>
    rw [List.foldr_cons, ih h.tail, Dictionary.insert_eq_cons (List.pairwise_cons.1 h).1]

/-- The entries of a folder are what can be found in it. -/
theorem Tree.mem_children_iff : (name, u) ∈ t.children ↔ t.get? [name] = some u := by
  rw [t.ascending_children.mem_iff_get?]
  cases t with
  | file | link => simp [children, get?, Dictionary.get?]
  | folder entries =>
    have hlookup : Dictionary.get? (children (folder entries)) name =
        Dictionary.get? entries name := by
      rw [children]
      induction entries with
      | nil => rfl
      | cons entry entries ih => rw [List.foldr_cons, Dictionary.get?_insert, ih, Dictionary.get?_cons]
    rw [hlookup]
    simp [get?, Dictionary.get?]

theorem Tree.get?_cons : t.get? (name :: place) = (t.get? [name]).bind (·.get? place) := by
  cases t with
  | file | link => rfl
  | folder entries =>
    simp only [get?]
    cases entries.lookup name <;> rfl

theorem Tree.WellNamed.child (h : t.WellNamed) (hchild : (name, u) ∈ t.children) :
    Path.AreEntries [name] ∧ u.WellNamed := by
  have hget := mem_children_iff.1 hchild
  refine ⟨h [name] u hget, fun place v hv => ?_⟩
  have hplace := h (name :: place) v (by rw [get?_cons, hget, Option.bind_some, hv])
  exact fun n hn => hplace n (List.mem_cons_of_mem _ hn)

theorem Tree.wellNamed_file (content : Content) : (Tree.file content).WellNamed := by
  intro place u hu
  cases place with
  | nil => exact List.forall_mem_nil _
  | cons name place => cases hu

theorem Tree.wellNamed_link (target : String) : (Tree.link target).WellNamed := by
  intro place u hu
  cases place with
  | nil => exact List.forall_mem_nil _
  | cons name place => cases hu

theorem Tree.wellNamed_folder {entries : List (String × Tree)}
    (h : ∀ entry ∈ entries, Path.AreEntries [entry.1] ∧ entry.2.WellNamed) :
    (Tree.folder entries).WellNamed := by
  intro place u hu
  cases place with
  | nil => exact List.forall_mem_nil _
  | cons name place =>
    rw [get?_cons] at hu
    obtain ⟨v, hv, hget⟩ := Option.bind_eq_some_iff.1 hu
    have hlookup : entries.lookup name = some v := by simpa [get?] using hv
    obtain ⟨front, tail, rfl, -⟩ := List.lookup_eq_some_iff.1 hlookup
    obtain ⟨hname, hv⟩ := h (name, v) (by simp)
    exact List.forall_mem_cons.2 ⟨hname name List.mem_cons_self, hv place u hget⟩

/-! ### Counting nodes -/

theorem Tree.countAll_insert_le (name : String) (t : Tree) (entries : List (String × Tree)) :
    countAll (Dictionary.insert name t entries) ≤ t.count + countAll entries := by
  induction entries with
  | nil => simp [Dictionary.insert, countAll]
  | cons entry entries ih =>
    obtain ⟨key, v⟩ := entry
    rw [Dictionary.insert]
    split_ifs <;> simp only [countAll] at ih ⊢ <;> omega

theorem Tree.countAll_children_lt (t : Tree) : countAll t.children < t.count := by
  cases t with
  | file | link => simp [children, count, countAll]
  | folder entries =>
    have hle : countAll (children (folder entries)) ≤ countAll entries := by
      rw [children]
      induction entries with
      | nil => exact Nat.le_refl _
      | cons entry entries ih =>
        have hinsert := countAll_insert_le entry.1 entry.2
          (entries.foldr (fun e sorted => Dictionary.insert e.1 e.2 sorted) [])
        simp only [List.foldr_cons, countAll] at hinsert ⊢
        omega
    rw [count]
    omega

/-! ### What is below a node -/

/-- What is at names below a node, all of them accepted. -/
def LiesBelow (keep : String → Bool) (path : Path) (t : Tree) (e : Entry) : Prop :=
  ∃ names, (∀ name ∈ names, keep name) ∧ t.get? names = some e.node ∧ e.path = path.descend names

/-- What is below a node is the node itself, or below one of the entries of the folder. -/
theorem liesBelow_iff : LiesBelow keep path t e ↔ e = ⟨path, t⟩ ∨
    ∃ name u, (name, u) ∈ t.children ∧ keep name ∧ LiesBelow keep (path.join ⟨name⟩) u e := by
  constructor
  · rintro ⟨_ | ⟨name, names⟩, hkeep, hget, hpath⟩
    · obtain ⟨p, node⟩ := e
      obtain rfl := Option.some.inj hget
      exact .inl (congrArg (Entry.mk · t) hpath)
    · obtain ⟨hname, hnames⟩ := List.forall_mem_cons.1 hkeep
      rw [Tree.get?_cons] at hget
      obtain ⟨u, hu, hget⟩ := Option.bind_eq_some_iff.1 hget
      exact .inr ⟨name, u, Tree.mem_children_iff.2 hu, hname, names, hnames, hget, hpath⟩
  · rintro (rfl | ⟨name, u, hchild, hname, names, hnames, hget, hpath⟩)
    · exact ⟨[], List.forall_mem_nil _, by rw [Tree.get?], rfl⟩
    · refine ⟨name :: names, List.forall_mem_cons.2 ⟨hname, hnames⟩, ?_, hpath⟩
      rw [Tree.get?_cons, Tree.mem_children_iff.1 hchild, Option.bind_some, hget]

/-- A walk with fuel for two steps at each node meets all that is below a node, or below some of the
    entries of a folder. -/
theorem mem_entriesAt_and_entriesIn (keep : String → Bool) (e : Entry) (fuel : ℕ) :
    (∀ path t, 2 * Tree.count t ≤ fuel + 1 →
      (e ∈ entriesAt keep path fuel t ↔ LiesBelow keep path t e)) ∧
    ∀ path entries, 2 * Tree.countAll entries ≤ fuel →
      (e ∈ entriesIn keep path fuel entries ↔ ∃ name u, (name, u) ∈ entries ∧ keep name ∧
        LiesBelow keep (path.join ⟨name⟩) u e) := by
  induction fuel with
  | zero =>
    refine ⟨fun path t hfuel => ?_, fun path entries hfuel => ?_⟩
    · have hpos := t.countAll_children_lt
      omega
    · cases entries with
      | nil => simp [entriesIn]
      | cons entry entries =>
        have hpos := entry.2.countAll_children_lt
        rw [Tree.countAll] at hfuel
        omega
  | succ fuel ih =>
    refine ⟨fun path t hfuel => ?_, fun path entries hfuel => ?_⟩
    · have hchildren := t.countAll_children_lt
      rw [entriesAt, List.mem_cons, ih.2 path t.children (by omega), liesBelow_iff]
    · cases entries with
      | nil => simp [entriesIn]
      | cons entry entries =>
        obtain ⟨name, u⟩ := entry
        rw [Tree.countAll] at hfuel
        have hu := u.countAll_children_lt
        -- The first entry adds what is below it, if its name is kept.
        rw [entriesIn, List.mem_append, List.mem_ite_nil_right, ih.1 _ u (by omega),
          ih.2 path entries (by omega)]
        simp only [List.mem_cons, Prod.mk.injEq]
        constructor
        · rintro (h | ⟨other, v, hmem, h⟩)
          · exact ⟨name, u, .inl ⟨rfl, rfl⟩, h⟩
          · exact ⟨other, v, .inr hmem, h⟩
        · rintro ⟨other, v, ⟨rfl, rfl⟩ | hmem, h⟩
          · exact .inl h
          · exact .inr ⟨other, v, hmem, h⟩

/-- What is below an entry of a folder has the name of the entry in its path. -/
theorem LiesBelow.prefix_components (h : LiesBelow keep (path.join ⟨name⟩) u e) (hu : u.WellNamed)
    (hname : Path.AreEntries [name]) : path.components ++ [.name name] <+: e.path.components := by
  obtain ⟨names, -, hget, hpath⟩ := h
  have hjoin : (path.join ⟨name⟩).components = path.components ++ [.name name] :=
    Path.components_descend hname path
  rw [hpath, Path.components_descend (hu names _ hget), hjoin]
  exact List.prefix_append _ _

/-- What is below an entry of a folder is not the folder. -/
theorem LiesBelow.components_ne (h : LiesBelow keep (path.join ⟨name⟩) u e) (hu : u.WellNamed)
    (hname : Path.AreEntries [name]) : path.components ≠ e.path.components := by
  have hlength := (h.prefix_components hu hname).length_le
  intro heq
  rw [← heq, List.length_append] at hlength
  exact absurd hlength (Nat.not_succ_le_self _)

/-- What lies at or below two names of a folder lies apart. -/
theorem LiesBelow.components_ne_of_ne {other : String} {u v : Tree} {e' : Entry}
    (h : LiesBelow keep (path.join ⟨name⟩) u e) (h' : LiesBelow keep (path.join ⟨other⟩) v e')
    (hu : u.WellNamed) (hv : v.WellNamed) (hname : Path.AreEntries [name])
    (hother : Path.AreEntries [other]) (hne : name ≠ other) :
    e.path.components ≠ e'.path.components := by
  intro heq
  have hfirst := h.prefix_components hu hname
  have hsecond := h'.prefix_components hv hother
  rw [← heq] at hsecond
  have hsame := (List.prefix_of_prefix_length_le hfirst hsecond (by simp)).eq_of_length (by simp)
  exact hne (by simpa using hsame)

/-- A walk meets nothing twice. -/
theorem pairwise_entriesAt_and_entriesIn (keep : String → Bool) (fuel : ℕ) :
    (∀ path t, t.WellNamed → 2 * Tree.count t ≤ fuel + 1 →
      (entriesAt keep path fuel t).Pairwise fun e e' => e.path.components ≠ e'.path.components) ∧
    ∀ path entries, Dictionary.Ascending entries →
      (∀ name u, (name, u) ∈ entries → Path.AreEntries [name] ∧ u.WellNamed) →
      2 * Tree.countAll entries ≤ fuel →
      (entriesIn keep path fuel entries).Pairwise fun e e' =>
        e.path.components ≠ e'.path.components := by
  induction fuel with
  | zero =>
    refine ⟨fun path t _ hfuel => ?_, fun path entries _ _ hfuel => ?_⟩
    · have hpos := t.countAll_children_lt
      omega
    · cases entries with
      | nil => exact List.Pairwise.nil
      | cons entry entries =>
        have hpos := entry.2.countAll_children_lt
        rw [Tree.countAll] at hfuel
        omega
  | succ fuel ih =>
    refine ⟨fun path t ht hfuel => ?_, fun path entries hascending hnames hfuel => ?_⟩
    · have hchildren := t.countAll_children_lt
      rw [entriesAt]
      -- What is below a folder has one name more in its path.
      refine List.pairwise_cons.2 ⟨fun e he => ?_, ih.2 path t.children t.ascending_children
        (fun _ _ => ht.child) (by omega)⟩
      obtain ⟨name, u, hchild, -, hbelow⟩ :=
        ((mem_entriesAt_and_entriesIn keep e fuel).2 path _ (by omega)).1 he
      obtain ⟨hname, hu⟩ := ht.child hchild
      exact hbelow.components_ne hu hname
    · cases entries with
      | nil => exact List.Pairwise.nil
      | cons entry entries =>
        obtain ⟨name, u⟩ := entry
        obtain ⟨hname, hu⟩ := hnames name u List.mem_cons_self
        have hnames' : ∀ name u, (name, u) ∈ entries → Path.AreEntries [name] ∧ u.WellNamed :=
          fun name u hmem => hnames name u (List.mem_cons_of_mem _ hmem)
        rw [Tree.countAll] at hfuel
        have hpos := u.countAll_children_lt
        rw [entriesIn]
        refine List.pairwise_append.2
          ⟨?_, ih.2 path entries hascending.tail hnames' (by omega), fun e he e' he' => ?_⟩
        · split_ifs
          · exact ih.1 _ u hu (by omega)
          · exact List.Pairwise.nil
        · have hbelow : LiesBelow keep (path.join ⟨name⟩) u e :=
            ((mem_entriesAt_and_entriesIn keep e fuel).1 _ u (by omega)).1
              (List.mem_ite_nil_right.1 he).2
          obtain ⟨other, v, hmem, -, hbelow'⟩ :=
            ((mem_entriesAt_and_entriesIn keep e' fuel).2 path entries (by omega)).1 he'
          obtain ⟨hother, hv⟩ := hnames' other v hmem
          -- Of two entries of a folder, the names differ.
          have hne : name ≠ other := ((List.pairwise_cons.1 hascending).1 _ hmem).ne
          exact hbelow.components_ne_of_ne hbelow' hu hv hname hother hne

/-! ### Walks -/

/-- What a walk below a folder meets at some names, all of them accepted: at first what stands at
    the path of the folder, which may be a link, and then what is in the folder. -/
inductive Meets (d : Disk) (keep : String → Bool) (base : Path) : List String → Tree → Prop
  | self {place : Place} {t : Tree} (hfind : d.find false base = .ok (.node place t)) :
      Meets d keep base [] t
  | below {place : Place} {folder t : Tree} {names : List String}
      (hstat : d.stat base = .ok (place, folder)) (hne : names ≠ [])
      (hkeep : ∀ name ∈ names, keep name) (hget : folder.get? names = some t) :
      Meets d keep base names t

/-- A path that does not end in a link leads to the same whether or not a link there is followed. -/
theorem follow_true_of_false {root : Tree} {jump jump' : Place → List String → Except IoError Found}
    (hjump : ∀ here parts place t, jump here parts = .ok (.node place t) →
      (∀ target, t ≠ .link target) → jump' here parts = .ok (.node place t))
    {here : Place} {parts : List String} (hlink : ∀ target, t ≠ .link target)
    (h : follow root false jump here parts = .ok (.node place t)) :
    follow root true jump' here parts = .ok (.node place t) := by
  induction parts generalizing here with
  | nil => exact h
  | cons part parts ih =>
    obtain ⟨next, hon⟩ | ⟨target, start, hto⟩ | ⟨rfl, hend, -⟩ := follow_cons_cases h
    · rw [hon] at h ⊢
      exact ih h
    · rw [hto] at h ⊢
      rw [Bool.not_true, if_neg (by simp)]
      split_ifs at h
      · obtain ⟨-, rfl⟩ := Found.node.inj (Except.ok.inj h)
        exact absurd rfl (hlink target)
      · exact hjump _ _ _ _ h hlink
    · exact hend true jump'

theorem resolve_true_of_false {root : Tree} {links : ℕ} {here : Place} {parts : List String}
    (hlink : ∀ target, t ≠ .link target)
    (h : resolve root false links here parts = .ok (.node place t)) :
    resolve root true links here parts = .ok (.node place t) := by
  induction links generalizing here parts place t with
  | zero => exact follow_true_of_false (fun _ _ _ _ h => by cases h) hlink h
  | succ links ih => exact follow_true_of_false (fun _ _ _ _ h hlink => ih hlink h) hlink h

theorem stat_of_find_false (hlink : ∀ target, t ≠ .link target)
    (h : d.find false base = .ok (.node place t)) : d.stat base = .ok (place, t) := by
  refine stat_eq_ok_iff.2 ?_
  unfold find at h ⊢
  split_ifs at h ⊢
  exacts [resolve_true_of_false hlink h, resolve_true_of_false hlink h]

theorem Tree.count_le_of_mem {entries : List (String × Tree)} (h : (name, t) ∈ entries) :
    t.count ≤ countAll entries := by
  induction entries with
  | nil => exact absurd h List.not_mem_nil
  | cons entry entries ih =>
    rw [countAll]
    rcases List.mem_cons.1 h with rfl | h
    · exact Nat.le_add_right _ _
    · exact (ih h).trans (Nat.le_add_left _ _)

theorem Tree.count_le_of_get? {root : Tree} (h : root.get? place = some t) :
    t.count ≤ root.count := by
  induction place generalizing root with
  | nil =>
    rw [get?] at h
    exact (Option.some.inj h) ▸ Nat.le_refl _
  | cons name place ih =>
    rw [get?_cons] at h
    obtain ⟨u, hu, hget⟩ := Option.bind_eq_some_iff.1 h
    have hu' := count_le_of_mem (mem_children_iff.2 hu)
    have hroot := root.countAll_children_lt
    have hle := ih hget
    omega

theorem Tree.WellNamed.of_get? {root : Tree} (h : root.WellNamed) (ht : root.get? place = some t) :
    t.WellNamed := by
  induction place generalizing root with
  | nil =>
    rw [get?] at ht
    exact (Option.some.inj ht) ▸ h
  | cons name place ih =>
    rw [get?_cons] at ht
    obtain ⟨u, hu, hget⟩ := Option.bind_eq_some_iff.1 ht
    exact ih (h.child (mem_children_iff.2 hu)).2 hget

/-- A walk goes through if the paths of its folders are short. -/
theorem opened_eq_ok_iff {es es' : List Entry} :
    opened es = .ok es' ↔ (∀ e ∈ es, e.node.isFolder → e.path.isShort) ∧ es' = es := by
  rw [opened]
  cases hfind : es.find? fun e => e.node.isFolder && !e.path.isShort with
  | some e =>
    refine iff_of_false nofun fun h => ?_
    obtain ⟨hlong, hmem⟩ := And.intro (List.find?_some hfind) (List.mem_of_find?_eq_some hfind)
    rw [Bool.and_eq_true, Bool.not_eq_true'] at hlong
    exact Bool.false_ne_true (hlong.2.symm.trans (h.1 e hmem hlong.1))
  | none =>
    have hshort : ∀ e ∈ es, e.node.isFolder → e.path.isShort := by
      simpa using List.find?_eq_none.1 hfind
    exact ⟨fun h => ⟨hshort, (Except.ok.inj h).symm⟩, fun h => congrArg Except.ok h.2.symm⟩

/-- How a walk starts: with a link to a folder, which it lists, or with a folder. -/
theorem entries_cases {es : List Entry} (h : d.entries keep base = .ok es) :
    (∃ place target place' folder, d.find false base = .ok (.node place (.link target)) ∧
      d.stat base = .ok (place', folder) ∧
      es = ⟨base, .link target⟩ :: entriesIn keep base (2 * d.root.count) folder.children) ∨
    ∃ place t, d.find false base = .ok (.node place t) ∧ d.stat base = .ok (place, t) ∧
      es = entriesAt keep base (2 * d.root.count + 1) t := by
  rw [entries] at h
  cases hfind : d.find false base with
  | error e => simp [hfind] at h
  | ok found =>
    cases found with
    | missing place => simp [hfind] at h
    | node place t =>
      cases t with
      | file content | folder entries =>
        simp only [hfind] at h
        exact .inr ⟨place, _, rfl, stat_of_find_false nofun hfind, (opened_eq_ok_iff.1 h).2⟩
      | link target =>
        simp only [hfind] at h
        cases hstat : d.stat base with
        | error e => simp [hstat] at h
        | ok found =>
          simp only [hstat] at h
          exact .inl ⟨place, target, found.1, found.2, rfl, rfl, (opened_eq_ok_iff.1 h).2⟩

/-- What a walk meets is at the path of the folder or below an entry of it. -/
theorem exists_meets_iff {found folder : Tree} {place place' : Place}
    (hfind : d.find false base = .ok (.node place found))
    (hstat : d.stat base = .ok (place', folder)) :
    (∃ names, Meets d keep base names e.node ∧ e.path = base.descend names) ↔
      e = ⟨base, found⟩ ∨ ∃ name u, (name, u) ∈ folder.children ∧ keep name ∧
        LiesBelow keep (base.join ⟨name⟩) u e := by
  constructor
  · obtain ⟨path, node⟩ := e
    rintro ⟨names, hmeets, rfl⟩
    cases hmeets with
    | self hfind' =>
      obtain ⟨-, rfl⟩ := Found.node.inj (Except.ok.inj (hfind'.symm.trans hfind))
      exact .inl rfl
    | below hstat' hne hkeep hget =>
      obtain ⟨-, rfl⟩ := Prod.mk.inj (Except.ok.inj (hstat'.symm.trans hstat))
      obtain ⟨name, names, rfl⟩ := List.exists_cons_of_ne_nil hne
      obtain ⟨hname, hnames⟩ := List.forall_mem_cons.1 hkeep
      rw [Tree.get?_cons] at hget
      obtain ⟨u, hu, hget⟩ := Option.bind_eq_some_iff.1 hget
      exact .inr ⟨name, u, Tree.mem_children_iff.2 hu, hname, names, hnames, hget, rfl⟩
  · rintro (rfl | ⟨name, u, hchild, hname, names, hnames, hget, hpath⟩)
    · exact ⟨[], .self hfind, rfl⟩
    · refine ⟨name :: names, .below hstat (by simp) (List.forall_mem_cons.2 ⟨hname, hnames⟩) ?_,
        hpath⟩
      rw [Tree.get?_cons, Tree.mem_children_iff.1 hchild, Option.bind_some, hget]

/-- A walk lists what it meets. -/
theorem mem_entries_iff {es : List Entry} (h : d.entries keep base = .ok es) :
    e ∈ es ↔ ∃ names, Meets d keep base names e.node ∧ e.path = base.descend names := by
  rcases entries_cases h with ⟨place, target, place', folder, hfind, hstat, rfl⟩ |
    ⟨place, t, hfind, hstat, rfl⟩
  · have hcount := Tree.count_le_of_get? (get?_of_stat hstat)
    have hchildren := folder.countAll_children_lt
    rw [List.mem_cons, (mem_entriesAt_and_entriesIn keep e _).2 base _ (by omega),
      exists_meets_iff hfind hstat]
  · have hcount := Tree.count_le_of_get? (get?_of_stat hstat)
    rw [(mem_entriesAt_and_entriesIn keep e _).1 base t (by omega), liesBelow_iff,
      exists_meets_iff hfind hstat]

/-- A walk lists nothing twice. -/
theorem pairwise_entries {es : List Entry} (hnames : d.root.WellNamed)
    (h : d.entries keep base = .ok es) :
    es.Pairwise fun e e' => e.path.components ≠ e'.path.components := by
  rcases entries_cases h with ⟨place, target, place', folder, hfind, hstat, rfl⟩ |
    ⟨place, t, hfind, hstat, rfl⟩
  · have hget := get?_of_stat hstat
    have hfolder := hnames.of_get? hget
    have hcount := Tree.count_le_of_get? hget
    have hchildren := folder.countAll_children_lt
    refine List.pairwise_cons.2 ⟨fun e he => ?_, (pairwise_entriesAt_and_entriesIn keep _).2 base _
      folder.ascending_children (fun _ _ => hfolder.child) (by omega)⟩
    obtain ⟨name, u, hchild, -, hbelow⟩ :=
      ((mem_entriesAt_and_entriesIn keep e _).2 base _ (by omega)).1 he
    obtain ⟨hname, hu⟩ := hfolder.child hchild
    exact hbelow.components_ne hu hname
  · have hget := get?_of_stat hstat
    have hcount := Tree.count_le_of_get? hget
    exact (pairwise_entriesAt_and_entriesIn keep _).1 base t (hnames.of_get? hget) (by omega)

end Autofix.Disk
