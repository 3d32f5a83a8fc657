import Autofix.Disk.Walk
import Autofix.Proofs.Dictionary
import Autofix.Proofs.Disk.Rewriting

/-!
# Walks look into no file

A walk sees which names are where and what kind of node is behind each of them, but not what files
hold: it comes to the same once all files have been emptied (`Disk.filesBelow_emptied`,
`Disk.entries_emptied`). Writing to a file that exists leaves the same disk but for what files hold
(`Disk.emptied_put`), and so it changes no walk (`Disk.Overwrites.filesBelow_eq`).
-/

namespace Autofix

namespace Disk

/-! ### Trees -/

namespace Tree

mutual

/-- The tree with nothing in its files. -/
def emptied : Tree → Tree
  | file _ => file (.text "")
  | link target => link target
  | folder entries => folder (emptiedAll entries)

def emptiedAll : List (String × Tree) → List (String × Tree)
  | [] => []
  | (name, t) :: rest => (name, t.emptied) :: emptiedAll rest

end

theorem emptiedAll_eq_map (entries : List (String × Tree)) :
    emptiedAll entries = entries.map fun e => (e.1, e.2.emptied) := by
  induction entries with
  | nil => rfl
  | cons entry entries ih => rw [emptiedAll, ih, List.map_cons]

theorem emptied_folder (entries : List (String × Tree)) :
    (folder entries).emptied = folder (entries.map fun e => (e.1, e.2.emptied)) := by
  rw [emptied, emptiedAll_eq_map]

@[simp] theorem bare_emptied (t : Tree) : t.emptied.bare = t.bare := by
  cases t <;> simp [emptied, bare]

@[simp] theorem isFolder_emptied (t : Tree) : t.emptied.isFolder = t.isFolder := by
  cases t <;> simp [emptied, isFolder]

mutual

@[simp] theorem count_emptied : (t : Tree) → t.emptied.count = t.count
  | file _ => by rw [emptied, count, count]
  | link _ => by rw [emptied]
  | folder entries => by rw [emptied, count, count, countAll_emptied entries]

theorem countAll_emptied : (entries : List (String × Tree)) →
    countAll (emptiedAll entries) = countAll entries
  | [] => rfl
  | (_, t) :: rest => by rw [emptiedAll, countAll, countAll, count_emptied t, countAll_emptied rest]

end

theorem lookup_map_emptied (name : String) (entries : List (String × Tree)) :
    (entries.map fun e => (e.1, e.2.emptied)).lookup name = (entries.lookup name).map emptied := by
  induction entries with
  | nil => rfl
  | cons entry entries ih =>
    rw [List.map_cons, lookup_cons, lookup_cons, ih]
    split_ifs <;> rfl

theorem get?_emptied (root : Tree) (place : Place) :
    root.emptied.get? place = (root.get? place).map emptied := by
  induction place generalizing root with
  | nil => rw [get?, get?, Option.map_some]
  | cons name rest ih =>
    cases root with
    | file | link => simp [emptied, get?]
    | folder entries =>
      rw [emptied_folder, get?, get?, lookup_map_emptied]
      cases entries.lookup name with
      | none => rfl
      | some t => exact ih t

theorem insert_map_emptied (name : String) (t : Tree) (entries : List (String × Tree)) :
    Dictionary.insert name t.emptied (entries.map fun e => (e.1, e.2.emptied)) =
      (Dictionary.insert name t entries).map fun e => (e.1, e.2.emptied) := by
  induction entries with
  | nil => rfl
  | cons entry entries ih =>
    rw [List.map_cons, Dictionary.insert, Dictionary.insert, ih]
    split_ifs <;> rfl

/-- The same names are in a folder, in the same order. -/
theorem children_emptied (t : Tree) :
    t.emptied.children = t.children.map fun e => (e.1, e.2.emptied) := by
  cases t with
  | file | link => simp [emptied, children]
  | folder entries =>
    rw [emptied_folder, children, children]
    induction entries with
    | nil => rfl
    | cons entry entries ih => rw [List.map_cons, List.foldr_cons, List.foldr_cons, ih,
        insert_map_emptied]

/-- What is put in place of something like it but for contents is no difference. -/
theorem map_putEntry {name : String} {t u : Tree} {entries : List (String × Tree)}
    (hlookup : entries.lookup name = some t) (h : u.emptied = t.emptied) :
    (putEntry name u entries).map (fun e => (e.1, e.2.emptied)) =
      entries.map fun e => (e.1, e.2.emptied) := by
  induction entries with
  | nil => cases hlookup
  | cons entry entries ih =>
    obtain ⟨other, v⟩ := entry
    rw [lookup_cons] at hlookup
    rw [putEntry]
    by_cases hother : other = name
    · rw [if_pos hother.symm] at hlookup
      obtain rfl := Option.some.inj hlookup
      rw [if_pos hother, List.map_cons, List.map_cons, h, hother]
    · rw [if_neg (Ne.symm hother)] at hlookup
      rw [if_neg hother, List.map_cons, List.map_cons, ih hlookup]

/-- A file in place of another one is no difference but for what they hold. -/
theorem emptied_put {root : Tree} {place : Place} {content new : Content}
    (h : root.get? place = some (.file content)) :
    (root.put place (.file new)).emptied = root.emptied := by
  induction place generalizing root with
  | nil =>
    obtain rfl : root = .file content := Option.some.inj h
    rw [put, emptied, emptied]
  | cons name rest ih =>
    cases root with
    | file _ => simp [get?] at h
    | link _ => simp [get?] at h
    | folder entries =>
      obtain ⟨t, hlookup, ht⟩ := Option.bind_eq_some_iff.1 h
      rw [put, hlookup, Option.getD_some, emptied_folder, emptied_folder,
        map_putEntry hlookup (ih ht)]

end Tree

/-! ### Disks -/

/-- The disk with nothing in its files. -/
def emptied (d : Disk) : Disk := { d with root := d.root.emptied }

/-- Where a path leads, with nothing in the files there. -/
def Found.emptied : Found → Found
  | .node place t => .node place t.emptied
  | .missing place => .missing place

/-- Something met by a walk, with nothing in its files. -/
def Entry.emptied (e : Entry) : Entry := { e with node := e.node.emptied }

variable {d d' : Disk}

/-- All paths lead to the same places. -/
theorem find_emptied (d : Disk) (last : Bool) (p : Path) :
    d.emptied.find last p = (d.find last p).map Found.emptied := by
  have hrewrites : d.Rewrites (fun _ => True) d.emptied :=
    ⟨rfl, rfl, fun place => by
      rw [emptied, Tree.get?_emptied, Option.map_map]
      exact congrArg (Option.map · _) (funext Tree.bare_emptied),
      fun _ _ hnot => absurd trivial hnot⟩
  have hbare := hrewrites.find_bare last p
  cases hfind : d.find last p with
  | error e =>
    cases hfind' : d.emptied.find last p with
    | error e' =>
      rw [hfind, hfind'] at hbare
      cases hbare
      rfl
    | ok found' => simp [hfind, hfind', Except.map] at hbare
  | ok found =>
    cases hfind' : d.emptied.find last p with
    | error e' => simp [hfind, hfind', Except.map] at hbare
    | ok found' =>
      rw [hfind, hfind'] at hbare
      cases found with
      | missing place =>
        cases found' with
        | node place' t' => simp [Except.map, Found.bare] at hbare
        | missing place' =>
          cases hbare
          rfl
      | node place t =>
        cases found' with
        | missing place' => simp [Except.map, Found.bare] at hbare
        | node place' t' =>
          obtain ⟨rfl, -⟩ : place' = place ∧ t'.bare = t.bare := by
            simpa [Except.map, Found.bare] using hbare
          have hget := get?_of_find hfind'
          rw [emptied, Tree.get?_emptied, get?_of_find hfind] at hget
          rw [Except.map, Found.emptied, Option.some.inj hget]

theorem stat_emptied (d : Disk) (p : Path) :
    d.emptied.stat p = (d.stat p).map fun found => (found.1, found.2.emptied) := by
  rw [stat, stat, find_emptied]
  rcases d.find true p with e | _ | _ <;> rfl

/-! ### Walks -/

theorem entriesAt_emptied_and_entriesIn_emptied (keep : String → Bool) (fuel : ℕ) :
    (∀ path t, entriesAt keep path fuel t.emptied = (entriesAt keep path fuel t).map Entry.emptied) ∧
      ∀ path children, entriesIn keep path fuel (children.map fun e => (e.1, e.2.emptied)) =
        (entriesIn keep path fuel children).map Entry.emptied := by
  induction fuel with
  | zero =>
    refine ⟨fun path t => ?_, fun path children => ?_⟩
    · rw [entriesAt, entriesAt, List.map_nil]
    · rw [entriesIn, entriesIn, List.map_nil]
  | succ fuel ih =>
    obtain ⟨ihAt, ihIn⟩ := ih
    refine ⟨fun path t => ?_, fun path children => ?_⟩
    · rw [entriesAt, entriesAt, List.map_cons, Tree.children_emptied, ihIn]
      rfl
    · cases children with
      | nil => rw [List.map_nil, entriesIn, List.map_nil]
      | cons entry children =>
        rw [List.map_cons, entriesIn, entriesIn, List.map_append, ihIn]
        split_ifs
        · rw [ihAt]
        · rfl

theorem opened_emptied (es : List Entry) :
    opened (es.map Entry.emptied) = (opened es).map (List.map Entry.emptied) := by
  have hkind : (fun e : Entry => e.node.isFolder && !e.path.isShort) ∘ Entry.emptied =
      fun e => e.node.isFolder && !e.path.isShort :=
    funext fun e => by rw [Function.comp, Entry.emptied, Tree.isFolder_emptied]
  rw [opened, opened, List.find?_map, hkind]
  cases es.find? fun e => e.node.isFolder && !e.path.isShort <;> rfl

/-- A walk meets the same. -/
theorem entries_emptied (d : Disk) (keep : String → Bool) (p : Path) :
    d.emptied.entries keep p = (d.entries keep p).map (List.map Entry.emptied) := by
  obtain ⟨hAt, hIn⟩ := entriesAt_emptied_and_entriesIn_emptied keep (2 * d.root.count)
  obtain ⟨hAt', -⟩ := entriesAt_emptied_and_entriesIn_emptied keep (2 * d.root.count + 1)
  have hcount : d.emptied.root.count = d.root.count := Tree.count_emptied d.root
  rw [entries, entries, find_emptied, stat_emptied, hcount]
  rcases d.find false p with e | ⟨place, content | target | children⟩ | place
  · rfl
  · exact (congrArg opened (hAt' p (.file content))).trans (opened_emptied _)
  · dsimp only [Except.map, Found.emptied, Tree.emptied]
    rcases d.stat p with e | ⟨place', t⟩
    · rfl
    · dsimp only
      rw [Tree.children_emptied, hIn]
      exact opened_emptied (⟨p, .link target⟩ :: entriesIn keep p _ t.children)
  · exact (congrArg opened (hAt' p (.folder children))).trans (opened_emptied _)
  · rfl

theorem filesIn_emptied_and_fileAt_emptied (d : Disk) (fuel : ℕ) :
    (∀ inside path place children,
      filesIn d.emptied inside path place fuel (children.map fun e => (e.1, e.2.emptied)) =
        filesIn d inside path place fuel children) ∧
      ∀ inside path place t, fileAt d.emptied inside path place fuel t.emptied =
        fileAt d inside path place fuel t := by
  induction fuel with
  | zero =>
    refine ⟨fun inside path place children => ?_, fun inside path place t => ?_⟩
    · rw [filesIn, filesIn]
    · rw [fileAt, fileAt]
  | succ fuel ih =>
    obtain ⟨ihIn, ihAt⟩ := ih
    refine ⟨fun inside path place children => ?_, fun inside path place t => ?_⟩
    · cases children with
      | nil => rw [List.map_nil, filesIn, filesIn]
      | cons entry children => rw [List.map_cons, filesIn, filesIn, ihAt, ihIn]
    · cases t with
      | file content => rw [Tree.emptied, fileAt, fileAt]
      | folder children =>
        have hchildren := Tree.children_emptied (.folder children)
        rw [Tree.emptied] at hchildren ⊢
        rw [fileAt, fileAt, hchildren, ihIn]
      | link target =>
        -- A link leads to the same place, and what is there differs in contents only.
        rw [Tree.emptied, fileAt, fileAt, stat_emptied]
        rcases d.stat path with e | ⟨place', t⟩
        · rfl
        · dsimp only [Except.map]
          rw [Tree.isFolder_emptied, Tree.children_emptied, ihIn]

/-- A walk finds the same files. -/
theorem filesBelow_emptied (d : Disk) (p : Path) : d.emptied.filesBelow p = d.filesBelow p := by
  have hbound : d.emptied.walkBound = d.walkBound := by
    rw [walkBound, walkBound, emptied, Tree.count_emptied]
  rw [filesBelow, filesBelow, stat_emptied, hbound]
  rcases d.stat p with e | ⟨place, t⟩
  · rfl
  · dsimp only [Except.map]
    rw [Tree.children_emptied, (filesIn_emptied_and_fileAt_emptied d _).1]

namespace Overwrites

/-- Writing to files that exist changes nothing but what files hold. -/
theorem emptied_eq (h : d.Overwrites d') : d'.emptied = d.emptied := by
  induction h with
  | refl => rfl
  | @write d' d'' p s _ hfile hwrite ih =>
    obtain ⟨place, content, hp⟩ := isFile_iff.1 hfile
    rw [← ih, eq_put_of_writeText hp hwrite, emptied, emptied, Tree.emptied_put (get?_of_stat hp)]

theorem filesBelow_eq (h : d.Overwrites d') (p : Path) : d'.filesBelow p = d.filesBelow p := by
  rw [← filesBelow_emptied d', h.emptied_eq, filesBelow_emptied]

theorem entries_eq (h : d.Overwrites d') (keep : String → Bool) (p : Path) :
    (d'.entries keep p).map (List.map Entry.emptied) =
      (d.entries keep p).map (List.map Entry.emptied) := by
  rw [← entries_emptied, h.emptied_eq, entries_emptied]

theorem has_eq (h : d.Overwrites d') (p : Path) : d'.has p = d.has p := by
  have hisOk : ∀ d : Disk, d.emptied.has p = d.has p := fun d => by
    rw [has, has, stat_emptied]
    cases d.stat p <;> rfl
  rw [← hisOk d', h.emptied_eq, hisOk]

end Overwrites

end Disk

end Autofix
