import Autofix.Disk
import Mathlib.Tactic.SplitIfs
import Mathlib.Tactic.Basic

/-!
# Writing to files that exist

Writing a text to a file that is already there changes the content of this file and nothing else
(`rewrites_of_writeText`). After any number of such changes all paths lead where they led before
(`Rewrites.find_bare`), and every file at another place has the content that it had
(`Rewrites.readText_eq`).
-/

namespace Autofix.Disk

/-! ### Nodes without what they hold -/

/-- A node without what it holds. -/
def Tree.bare : Tree → Tree
  | .file _ => .file (.text "")
  | .link target => .link target
  | .folder _ => .folder []

theorem Tree.exists_of_bare_eq_file {t : Tree} {content : Content}
    (h : t.bare = (Tree.file content).bare) : ∃ content', t = .file content' := by
  cases t with
  | file content' => exact ⟨content', rfl⟩
  | link target => cases h
  | folder entries => cases h

theorem Tree.lookup_cons (name other : String) (t : Tree) (entries : List (String × Tree)) :
    ((name, t) :: entries).lookup other =
      if other = name then some t else entries.lookup other := by
  by_cases h : other = name
  · subst h
    simp
  · simp [List.lookup_cons, beq_false_of_ne h, h]

theorem Tree.lookup_putEntry (name other : String) (t : Tree) (entries : List (String × Tree)) :
    (putEntry name t entries).lookup other =
      if other = name then some t else entries.lookup other := by
  induction entries with
  | nil => rw [putEntry, lookup_cons]
  | cons entry entries ih =>
    obtain ⟨key, u⟩ := entry
    rw [putEntry]
    by_cases hkey : key = name
    · subst hkey
      rw [if_pos rfl, lookup_cons, lookup_cons]
      split_ifs <;> rfl
    · rw [if_neg hkey, lookup_cons, lookup_cons, ih]
      split_ifs with hother hname
      · exact absurd (hother.symm.trans hname) hkey
      · rfl
      · rfl
      · rfl

/-- What has been put at a place is there. -/
theorem Tree.get?_put_self (root : Tree) (place : Place) (t : Tree) :
    (root.put place t).get? place = some t := by
  induction place generalizing root with
  | nil => rw [put, get?]
  | cons name rest ih =>
    cases root with
    | folder entries => simp [put, get?, lookup_putEntry, ih]
    | file content => simp [put, get?, ih]
    | link target => simp [put, get?, ih]

/-- Where a file is put in place of another one, the other nodes are what they were, but for what is
    in the folders on the way. -/
theorem Tree.get?_put {root : Tree} {place : Place} {content new : Content}
    (h : root.get? place = some (.file content)) (other : Place) :
    ((root.put place (.file new)).get? other).map bare = (root.get? other).map bare ∧
      (other ≠ place → ∀ kept, root.get? other = some (.file kept) →
        (root.put place (.file new)).get? other = some (.file kept)) := by
  induction place generalizing root other with
  | nil =>
    obtain rfl : root = .file content := by
      rw [get?] at h
      exact Option.some.inj h
    cases other with
    | nil => exact ⟨rfl, fun hne => absurd rfl hne⟩
    | cons name rest => exact ⟨rfl, fun _ _ hkept => by simp [get?] at hkept⟩
  | cons name rest ih =>
    cases root with
    | file _ => simp [get?] at h
    | link _ => simp [get?] at h
    | folder entries =>
      obtain ⟨t, hlookup, ht⟩ := Option.bind_eq_some_iff.1 h
      cases other with
      | nil => exact ⟨rfl, fun _ _ hkept => by simp [get?] at hkept⟩
      | cons name' rest' =>
        simp only [put, get?, hlookup, Option.getD_some, lookup_putEntry]
        -- The other node is in the same entry, or in one that is kept.
        split_ifs with hname
        · subst hname
          simp only [hlookup, Option.bind_some]
          refine ⟨(ih ht rest').1, fun hne => (ih ht rest').2 fun heq => hne ?_⟩
          rw [heq]
        · exact ⟨rfl, fun _ _ hkept => hkept⟩

/-! ### Looking paths up without looking at contents -/

/-- Where a node is in one tree, there is one in the other tree that differs in what it holds. -/
theorem Tree.exists_get?_of_bare {root root' t : Tree} {place : Place}
    (h : (root'.get? place).map bare = (root.get? place).map bare)
    (hget : root.get? place = some t) : ∃ t', root'.get? place = some t' ∧ t'.bare = t.bare := by
  rwa [hget, Option.map_some, Option.map_eq_some_iff] at h

theorem Tree.get?_eq_none_of_bare {root root' : Tree} {place : Place}
    (h : (root'.get? place).map bare = (root.get? place).map bare)
    (hget : root.get? place = none) : root'.get? place = none := by
  rwa [hget, Option.map_none, Option.map_eq_none_iff] at h

/-- Where a path leads, without what is there. -/
def Found.bare : Found → Found
  | .node place t => .node place t.bare
  | .missing place => .missing place

variable {root root' : Tree} {last : Bool}
  {jump jump' : Place → List String → Except IoError Found}

/-- Where the first part of a path leads, if the path leads anywhere: on to another place, whatever
    comes behind it; to a link; or to a file or nothing, with which the path ends. -/
theorem follow_cons_cases {here : Place} {part : String} {parts : List String} {found : Found}
    (h : follow root last jump here (part :: parts) = .ok found) :
    (∃ next, ∀ last jump parts,
      follow root last jump here (part :: parts) = follow root last jump next parts) ∨
    (∃ target start, ∀ last jump parts, follow root last jump here (part :: parts) =
      if parts = [] ∧ !last then .ok (.node (here ++ [part]) (.link target))
      else jump start (Disk.parts target ++ parts)) ∨
    parts = [] ∧ (∀ last jump, follow root last jump here [part] = .ok found) ∧
      ∀ place t, found = .node place t → ∃ content, t = .file content := by
  by_cases hblank : isBlank part
  · exact .inl ⟨here, fun _ _ _ => by rw [follow, if_pos hblank]⟩
  by_cases hup : part = ".."
  · exact .inl ⟨here.dropLast, fun _ _ _ => by rw [follow, if_neg hblank, if_pos hup]⟩
  by_cases hlong : 255 < part.utf8ByteSize
  · rw [follow, if_neg hblank, if_neg hup, if_pos hlong] at h
    cases h
  have hstep : ∀ last jump parts, follow root last jump here (part :: parts) = _ :=
    fun _ _ _ => by rw [follow, if_neg hblank, if_neg hup, if_neg hlong]
  cases hget : root.get? (here ++ [part]) with
  | none =>
    simp only [hstep, hget] at h ⊢
    split_ifs at h with hend
    obtain rfl := Except.ok.inj h
    exact .inr (.inr ⟨hend, fun _ _ => if_pos trivial, nofun⟩)
  | some node =>
    cases node with
    | file content =>
      simp only [hstep, hget] at h ⊢
      split_ifs at h with hend
      obtain rfl := Except.ok.inj h
      exact .inr (.inr ⟨hend, fun _ _ => if_pos trivial,
        fun _ _ hfound => ⟨content, (Found.node.inj hfound).2.symm⟩⟩)
    | folder entries => exact .inl ⟨here ++ [part], fun _ _ _ => by rw [hstep]; simp only [hget]⟩
    | link target =>
      exact .inr (.inl ⟨target, if (Path.mk target).isAbsolute then [] else here,
        fun _ _ _ => by rw [hstep]; simp only [hget]⟩)

/-- On its way, a lookup sees what kind of node is where, but not the contents of files. -/
theorem follow_bare
    (hshape : ∀ place, (root'.get? place).map Tree.bare = (root.get? place).map Tree.bare)
    (hjump : ∀ here parts, (jump' here parts).map Found.bare = (jump here parts).map Found.bare)
    (here : Place) (parts : List String) :
    (follow root' last jump' here parts).map Found.bare =
      (follow root last jump here parts).map Found.bare := by
  induction parts generalizing here with
  | nil =>
    rw [follow, follow]
    cases hget : root.get? here with
    | none => rw [Tree.get?_eq_none_of_bare (hshape here) hget]
    | some t =>
      obtain ⟨t', hget', hbare⟩ := Tree.exists_get?_of_bare (hshape here) hget
      simp [hget', Except.map, Found.bare, hbare]
  | cons part rest ih =>
    rw [follow, follow]
    by_cases hblank : isBlank part
    · rw [if_pos hblank, if_pos hblank]
      exact ih here
    rw [if_neg hblank, if_neg hblank]
    by_cases hup : part = ".."
    · rw [if_pos hup, if_pos hup]
      exact ih _
    rw [if_neg hup, if_neg hup]
    by_cases hlong : 255 < part.utf8ByteSize
    · rw [if_pos hlong, if_pos hlong]
    rw [if_neg hlong, if_neg hlong]
    dsimp only
    cases hget : root.get? (here ++ [part]) with
    | none => rw [Tree.get?_eq_none_of_bare (hshape _) hget]
    | some t =>
      -- What stands there is of the same kind in both trees, so both go the same way.
      obtain ⟨t', hget', hbare⟩ := Tree.exists_get?_of_bare (hshape _) hget
      rw [hget']
      cases t with
      | file content =>
        obtain ⟨content', rfl⟩ := Tree.exists_of_bare_eq_file hbare
        dsimp only
        split_ifs <;> rfl
      | link target =>
        cases t' <;> cases hbare
        dsimp only
        by_cases hend : rest = [] ∧ !last
        · rw [if_pos hend, if_pos hend]
        · rw [if_neg hend, if_neg hend]
          exact hjump _ _
      | folder entries =>
        cases t' <;> cases hbare
        exact ih _

theorem resolve_bare
    (hshape : ∀ place, (root'.get? place).map Tree.bare = (root.get? place).map Tree.bare)
    (links : Nat) (here : Place) (parts : List String) :
    (resolve root' last links here parts).map Found.bare =
      (resolve root last links here parts).map Found.bare := by
  induction links generalizing here parts with
  | zero => exact follow_bare hshape (fun _ _ => rfl) here parts
  | succ links ih => exact follow_bare hshape ih here parts

/-- What a path leads to is at its place. -/
theorem get?_of_follow (hjump : ∀ here parts place t, jump here parts = .ok (.node place t) →
      root.get? place = some t) {here place : Place} {parts : List String} {t : Tree}
    (h : follow root last jump here parts = .ok (.node place t)) : root.get? place = some t := by
  fun_induction follow root last jump here parts with
  | case1 | case8 | case11 =>
    obtain ⟨rfl, rfl⟩ := Found.node.inj (Except.ok.inj h)
    assumption
  | case2 | case5 | case6 | case7 | case9 => cases h
  | case3 _ _ _ _ ih | case4 _ _ _ ih => exact ih h
  | case10 _ _ _ _ _ _ _ _ _ ih => exact ih h
  | case12 => exact hjump _ _ _ _ h

theorem get?_of_resolve {links : Nat} {here place : Place} {parts : List String} {t : Tree}
    (h : resolve root last links here parts = .ok (.node place t)) : root.get? place = some t := by
  induction links generalizing here parts place t with
  | zero => exact get?_of_follow (fun _ _ _ _ h => by cases h) h
  | succ links ih => exact get?_of_follow (fun _ _ _ _ hjump => ih hjump) h

/-! ### Disks before and after -/

/-- Of two disks, the second one differs from the first one in nothing but the contents of files at
    some places. -/
structure Rewrites (places : Place → Prop) (d d' : Disk) : Prop where
  current_eq : d'.current = d.current
  home_eq : d'.home = d.home
  bare_eq : ∀ place, (d'.root.get? place).map Tree.bare = (d.root.get? place).map Tree.bare
  file_eq : ∀ place content, ¬places place → d.root.get? place = some (.file content) →
    d'.root.get? place = some (.file content)

/-- A path leads to something at a place. -/
def At (d : Disk) (p : Path) (place : Place) : Prop := ∃ t, d.stat p = .ok (place, t)

theorem stat_eq_ok_iff {d : Disk} {p : Path} {place : Place} {t : Tree} :
    d.stat p = .ok (place, t) ↔ d.find true p = .ok (.node place t) := by
  cases hfind : d.find true p with
  | error e => simp [stat, hfind, bind, Except.bind]
  | ok found =>
    cases found with
    | node place' t' => simp [stat, hfind, bind, Except.bind, pure, Except.pure]
    | missing place' => simp [stat, hfind, bind, Except.bind, throw, throwThe, MonadExceptOf.throw]

/-- Paths to different places lead nowhere together. -/
theorem not_at_of_stat {d : Disk} {p q : Path} {place place' here : Place} {t t' : Tree}
    (hp : d.stat p = .ok (place, t)) (hq : d.stat q = .ok (place', t')) (hne : place ≠ place')
    (hat : d.At p here) : ¬d.At q here := by
  rintro ⟨u', hat'⟩
  obtain ⟨u, hat⟩ := hat
  obtain ⟨rfl, rfl⟩ := Prod.mk.inj (Except.ok.inj (hp.symm.trans hat))
  exact hne (Prod.mk.inj (Except.ok.inj (hat'.symm.trans hq))).1

theorem get?_of_find {d : Disk} {p : Path} {last : Bool} {place : Place} {t : Tree}
    (h : d.find last p = .ok (.node place t)) : d.root.get? place = some t := by
  unfold find at h
  split_ifs at h
  · exact get?_of_resolve h
  · exact get?_of_resolve h

theorem get?_of_stat {d : Disk} {p : Path} {place : Place} {t : Tree}
    (h : d.stat p = .ok (place, t)) : d.root.get? place = some t :=
  get?_of_find (stat_eq_ok_iff.1 h)

theorem isFile_iff {d : Disk} {p : Path} :
    d.isFile p ↔ ∃ place content, d.stat p = .ok (place, .file content) := by
  unfold isFile
  cases d.stat p with
  | error e => simp
  | ok found =>
    obtain ⟨place, t⟩ := found
    cases t <;> simp [Tree.isFile]

/-- What a text can be read from is a file. -/
theorem isFile_of_readText {d : Disk} {p : Path} {s : String} (h : d.readText p = .ok s) :
    d.isFile p := by
  cases hstat : d.stat p with
  | error e => simp [readText, hstat, bind, Except.bind] at h
  | ok found =>
    obtain ⟨place, t⟩ := found
    cases t with
    | file content => exact isFile_iff.2 ⟨place, content, hstat⟩
    | link target => simp [readText, hstat, bind, Except.bind, throw, throwThe,
        MonadExceptOf.throw] at h
    | folder entries => simp [readText, hstat, bind, Except.bind, throw, throwThe,
        MonadExceptOf.throw] at h

variable {places places' : Place → Prop} {d d' d'' : Disk} {p : Path} {place : Place}

namespace Rewrites

theorem refl (d : Disk) : Rewrites places d d := ⟨rfl, rfl, fun _ => rfl, fun _ _ _ h => h⟩

theorem mono (h : Rewrites places d d') (hsub : ∀ place, places place → places' place) :
    Rewrites places' d d' where
  current_eq := h.current_eq
  home_eq := h.home_eq
  bare_eq := h.bare_eq
  file_eq place content hplace := h.file_eq place content fun hmem => hplace (hsub place hmem)

theorem trans (h : Rewrites places d d') (h' : Rewrites places d' d'') :
    Rewrites places d d'' where
  current_eq := h'.current_eq.trans h.current_eq
  home_eq := h'.home_eq.trans h.home_eq
  bare_eq place := (h'.bare_eq place).trans (h.bare_eq place)
  file_eq place content hplace hget := h'.file_eq place content hplace <|
    h.file_eq place content hplace hget

theorem symm (h : Rewrites places d d') : Rewrites places d' d where
  current_eq := h.current_eq.symm
  home_eq := h.home_eq.symm
  bare_eq place := (h.bare_eq place).symm
  file_eq place content hplace hget := by
    obtain ⟨t, ht, hbare⟩ := Tree.exists_get?_of_bare (h.bare_eq place).symm hget
    obtain ⟨content', rfl⟩ := Tree.exists_of_bare_eq_file hbare
    have hsame := hget.symm.trans (h.file_eq place content' hplace ht)
    rw [ht, hsame]

theorem find_bare (h : Rewrites places d d') (last : Bool) (p : Path) :
    (d'.find last p).map Found.bare = (d.find last p).map Found.bare := by
  unfold find
  rw [h.current_eq]
  split_ifs
  · rfl
  · rfl
  · rfl
  · exact resolve_bare h.bare_eq _ _ _
  · exact resolve_bare h.bare_eq _ _ _

/-- A path leads to the same place as before. -/
theorem exists_stat (h : Rewrites places d d') {t : Tree} (hp : d.stat p = .ok (place, t)) :
    ∃ t', d'.stat p = .ok (place, t') ∧ t'.bare = t.bare := by
  have hfind := h.find_bare true p
  rw [stat_eq_ok_iff.1 hp] at hfind
  cases hfound : d'.find true p with
  | error e => simp [hfound, Except.map] at hfind
  | ok found =>
    cases found with
    | missing place' => simp [hfound, Except.map, Found.bare] at hfind
    | node place' t' =>
      obtain ⟨rfl, hbare⟩ : place' = place ∧ t'.bare = t.bare := by
        simpa [hfound, Except.map, Found.bare] using hfind
      exact ⟨t', stat_eq_ok_iff.2 hfound, hbare⟩

/-- A path that leads nowhere leads nowhere for the same reason as before. -/
theorem stat_eq_error (h : Rewrites places d d') {e : IoError} (hp : d.stat p = .error e) :
    d'.stat p = .error e := by
  have hfind := h.find_bare true p
  have hstat : ∀ d : Disk, d.stat p = d.find true p >>= fun
    | .node place t => .ok (place, t)
    | .missing _ => .error .notFound := fun _ => rfl
  rw [hstat] at hp ⊢
  -- Both lookups end with the same error, or both lead to nothing.
  cases hfound : d.find true p with
  | error e' =>
    rw [hfound] at hp hfind
    cases hfound' : d'.find true p with
    | error e'' =>
      rw [hfound'] at hfind
      cases hfind
      exact hp
    | ok found' => simp [hfound', Except.map] at hfind
  | ok found =>
    rw [hfound] at hp hfind
    cases found with
    | node place t => cases hp
    | missing place =>
      cases hfound' : d'.find true p with
      | error e'' => simp [hfound', Except.map] at hfind
      | ok found' =>
        rw [hfound'] at hfind
        cases found' with
        | node place' t' => simp [Except.map, Found.bare] at hfind
        | missing place' => exact hp

theorem at_iff (h : Rewrites places d d') : d'.At p place ↔ d.At p place := by
  constructor
  · rintro ⟨t', hp⟩
    obtain ⟨t, hp, -⟩ := h.symm.exists_stat hp
    exact ⟨t, hp⟩
  · rintro ⟨t, hp⟩
    obtain ⟨t', hp, -⟩ := h.exists_stat hp
    exact ⟨t', hp⟩

theorem isFile_eq (h : Rewrites places d d') (p : Path) : d'.isFile p = d.isFile p := by
  have himp : ∀ {d d' : Disk}, Rewrites places d d' → d.isFile p → d'.isFile p := by
    intro d d' h hfile
    obtain ⟨place, content, hp⟩ := isFile_iff.1 hfile
    obtain ⟨t', hp', hbare⟩ := h.exists_stat hp
    obtain ⟨content', rfl⟩ := Tree.exists_of_bare_eq_file hbare
    exact isFile_iff.2 ⟨place, content', hp'⟩
  exact Bool.eq_iff_iff.2 ⟨himp h.symm, himp h⟩

/-- What is read from any other place is what was read before. -/
theorem readText_eq (h : Rewrites places d d') (hp : ∀ place, d.At p place → ¬places place) :
    d'.readText p = d.readText p := by
  cases hstat : d.stat p with
  | error e => simp only [readText, hstat, h.stat_eq_error hstat]
  | ok found =>
    obtain ⟨place, t⟩ := found
    obtain ⟨t', hstat', hbare⟩ := h.exists_stat hstat
    simp only [readText, hstat, hstat']
    cases t with
    | file content =>
      have hget := h.file_eq place content (hp place ⟨_, hstat⟩) (get?_of_stat hstat)
      obtain rfl : t' = .file content := Option.some.inj ((get?_of_stat hstat').symm.trans hget)
      rfl
    | link target =>
      cases t' <;> cases hbare
      rfl
    | folder entries =>
      cases t' <;> cases hbare
      rfl

end Rewrites

/-- Writing to a file that exists puts the text at its place. -/
theorem eq_put_of_writeText {content : Content} {s : String}
    (hp : d.stat p = .ok (place, .file content)) (h : d.writeText p s = .ok d') :
    d' = { d with root := d.root.put place (.file (.text s)) } := by
  simp only [writeText, stat_eq_ok_iff.1 hp] at h
  exact (Except.ok.inj h).symm

/-- Writing to a file that exists changes its content and nothing else. -/
theorem rewrites_of_writeText (hfile : d.isFile p) {s : String} (h : d.writeText p s = .ok d') :
    ∃ place, d.At p place ∧ Rewrites (· = place) d d' := by
  obtain ⟨place, content, hp⟩ := isFile_iff.1 hfile
  have hget := get?_of_stat hp
  obtain rfl := eq_put_of_writeText hp h
  exact ⟨place, ⟨_, hp⟩, rfl, rfl, fun other => (Tree.get?_put hget other).1,
    fun other kept hne => (Tree.get?_put hget other).2 hne kept⟩

/-- What has been written to a file that exists is read from it. -/
theorem readText_of_writeText (hfile : d.isFile p) {s : String} (h : d.writeText p s = .ok d') :
    d'.readText p = .ok s := by
  obtain ⟨place, content, hp⟩ := isFile_iff.1 hfile
  obtain ⟨place', hat, hrewrites⟩ := rewrites_of_writeText hfile h
  obtain ⟨t, hp', -⟩ := hrewrites.exists_stat hp
  have hput := Tree.get?_put_self d.root place (.file (.text s))
  obtain rfl := eq_put_of_writeText hp h
  obtain rfl : t = .file (.text s) := Option.some.inj ((get?_of_stat hp').symm.trans hput)
  rw [readText, hp']
  rfl

/-- A file that exists can be written. -/
theorem exists_writeText {d : Disk} {p : Path} (hfile : d.isFile p) (s : String) :
    ∃ d', d.writeText p s = .ok d' := by
  obtain ⟨place, content, hp⟩ := isFile_iff.1 hfile
  refine ⟨{ d with root := d.root.put place (.file (.text s)) }, ?_⟩
  simp only [writeText, stat_eq_ok_iff.1 hp]
  rfl

/-- What is read depends on nothing but the place that a path leads to. -/
theorem readText_eq_of_at {d : Disk} {p q : Path} {place : Place} (hp : d.At p place)
    (hq : d.At q place) : d.readText p = d.readText q := by
  obtain ⟨t, hp⟩ := hp
  obtain ⟨t', hq⟩ := hq
  obtain rfl : t = t' := Option.some.inj ((get?_of_stat hp).symm.trans (get?_of_stat hq))
  simp only [readText, hp, hq]

/-- One disk comes from another one by writing texts to files that exist. -/
inductive Overwrites (d : Disk) : Disk → Prop
  | refl : Overwrites d d
  | write {d' d'' : Disk} {p : Path} {s : String} (h : Overwrites d d') (hfile : d'.isFile p)
      (hwrite : d'.writeText p s = .ok d'') : Overwrites d d''

/-- The second disk comes from the first one by writing a text to a file, if there is one. -/
def Stores (d : Disk) (p : Path) (text : Option String) (d' : Disk) : Prop :=
  match text with
  | none => d' = d
  | some s => d.writeText p s = .ok d'

theorem Stores.unique {d d' d'' : Disk} {p : Path} {text : Option String}
    (h : d.Stores p text d') (h' : d.Stores p text d'') : d' = d'' := by
  cases text with
  | none => exact Eq.trans h (Eq.symm h')
  | some s => exact Except.ok.inj (Eq.trans (Eq.symm h) h')

end Autofix.Disk
