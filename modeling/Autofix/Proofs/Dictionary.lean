import Autofix.Dictionary
import Mathlib.Data.String.Basic

/-!
# Looking names up in dictionaries

Insertion keeps the names of a dictionary ascending (`Ascending`), and a lookup then finds what has
been put there last: `get?_insert`, `get?_merge`.
-/

namespace Autofix.Dictionary

variable {α β : Type} {d e : Dictionary α} {name other : String}

/-- The names are in ascending order, hence each stands once. -/
def Ascending (d : Dictionary α) : Prop := d.Pairwise fun a b => a.1 < b.1

theorem ascending_nil : Ascending ([] : Dictionary α) := List.Pairwise.nil

theorem Ascending.tail {a : String × α} (h : Ascending (a :: d)) : Ascending d :=
  (List.pairwise_cons.1 h).2

/-- What is there after an insertion has been inserted or was there before. -/
theorem mem_insert {value : α} {b : String × α} (h : b ∈ insert name value d) :
    b = (name, value) ∨ b ∈ d := by
  induction d with
  | nil => exact .inl (List.mem_singleton.1 h)
  | cons a d ih =>
    rw [insert] at h
    split_ifs at h with heq hlt
    · exact (List.mem_cons.1 h).imp_right (List.mem_cons_of_mem _)
    · exact List.mem_cons.1 h
    · rcases List.mem_cons.1 h with rfl | h
      · exact .inr List.mem_cons_self
      · exact (ih h).imp_right (List.mem_cons_of_mem _)

theorem mem_merge {entries : List (String × α)} {b : String × α} (h : b ∈ merge d entries) :
    b ∈ d ∨ b ∈ entries := by
  induction entries generalizing d with
  | nil => exact .inl h
  | cons a entries ih =>
    rcases ih h with h | h
    · rcases mem_insert h with rfl | h
      · exact .inr List.mem_cons_self
      · exact .inl h
    · exact .inr (List.mem_cons_of_mem _ h)

theorem Ascending.insert (h : Ascending d) (name : String) (value : α) :
    Ascending (insert name value d) := by
  induction d with
  | nil => exact List.pairwise_singleton _ _
  | cons a d ih =>
    have hbelow := (List.pairwise_cons.1 h).1
    rw [Dictionary.insert]
    split_ifs with heq hlt
    · subst heq
      exact List.pairwise_cons.2 ⟨hbelow, h.tail⟩
    · refine List.pairwise_cons.2 ⟨fun b hb => ?_, h⟩
      rcases List.mem_cons.1 hb with rfl | hb
      · exact hlt
      · exact hlt.trans (hbelow b hb)
    · refine List.pairwise_cons.2 ⟨fun b hb => ?_, ih h.tail⟩
      rcases mem_insert hb with rfl | hb
      · exact lt_of_le_of_ne (not_lt.1 hlt) (Ne.symm heq)
      · exact hbelow b hb

theorem Ascending.merge (h : Ascending d) (entries : List (String × α)) :
    Ascending (merge d entries) := by
  induction entries generalizing d with
  | nil => exact h
  | cons a entries ih => exact ih (h.insert a.1 a.2)

theorem ascending_ofList (entries : List (String × α)) : Ascending (ofList entries) :=
  ascending_nil.merge entries

/-- Other values for the same names. -/
theorem Ascending.mapValues (h : Ascending d) (f : String × α → β) :
    Ascending (d.map fun a => (a.1, f a)) :=
  List.pairwise_map.2 h

/-- The same values for the same names. -/
theorem mapValues_eq_self {f : String × α → α} (h : ∀ a ∈ d, f a = a.2) :
    d.map (fun a => (a.1, f a)) = d := by
  refine (List.map_congr_left fun a ha => ?_).trans (List.map_id d)
  exact Prod.ext rfl (h a ha)

/-- An entry whose name comes after all others is put at the end. -/
theorem insert_eq_append {value : α} (h : ∀ a ∈ d, a.1 < name) :
    insert name value d = d ++ [(name, value)] := by
  induction d with
  | nil => rfl
  | cons a d ih =>
    have hlt : a.1 < name := h a List.mem_cons_self
    rw [insert, if_neg hlt.ne', if_neg (not_lt_of_gt hlt), ih fun b hb => h b (.tail _ hb)]
    rfl

/-- An entry whose name comes before all others is put at the front. -/
theorem insert_eq_cons {value : α} (h : ∀ a ∈ d, name < a.1) :
    insert name value d = (name, value) :: d := by
  cases d with
  | nil => rfl
  | cons a d =>
    have hlt := h a List.mem_cons_self
    rw [insert, if_neg hlt.ne, if_pos hlt]

theorem merge_eq_append (he : Ascending e) (h : ∀ a ∈ d, ∀ b ∈ e, a.1 < b.1) :
    merge d e = d ++ e := by
  induction e generalizing d with
  | nil => rw [List.append_nil]; rfl
  | cons b e ih =>
    have hbelow := (List.pairwise_cons.1 he).1
    have hstep : merge d (b :: e) = merge (insert b.1 b.2 d) e := rfl
    rw [hstep, insert_eq_append fun a ha => h a ha b List.mem_cons_self, ih he.tail]
    · simp
    · intro a ha b' hb'
      rcases List.mem_append.1 ha with ha | ha
      · exact h a ha b' (.tail _ hb')
      · rw [List.mem_singleton.1 ha]
        exact hbelow b' hb'

/-- Entries whose names ascend make up a dictionary as they are. -/
theorem Ascending.ofList_eq (h : Ascending d) : ofList d = d :=
  (merge_eq_append h fun _ ha => absurd ha List.not_mem_nil).trans (List.nil_append d)

/-- A new entry is put between the other ones. -/
theorem perm_insert {value : α} (h : ∀ a ∈ d, a.1 ≠ name) :
    (insert name value d).Perm ((name, value) :: d) := by
  induction d with
  | nil => exact .refl _
  | cons a d ih =>
    obtain ⟨ha, hd⟩ := List.forall_mem_cons.1 h
    rw [insert, if_neg ha.symm]
    split_ifs
    · exact .refl _
    · exact ((ih hd).cons a).trans (.swap _ _ _)

theorem perm_merge {entries : List (String × α)}
    (hentries : entries.Pairwise fun a b => a.1 ≠ b.1) (hd : ∀ a ∈ entries, ∀ b ∈ d, b.1 ≠ a.1) :
    (merge d entries).Perm (entries ++ d) := by
  induction entries generalizing d with
  | nil => exact .refl _
  | cons a entries ih =>
    obtain ⟨ha, hd⟩ := List.forall_mem_cons.1 hd
    obtain ⟨hfirst, hentries⟩ := List.pairwise_cons.1 hentries
    refine (ih hentries fun b hb c hc => ?_).trans
      (((perm_insert ha).append_left entries).trans List.perm_middle)
    rcases mem_insert hc with rfl | hc
    · exact hfirst b hb
    · exact hd b hb c hc

/-- Entries whose names ascend make up a dictionary, in whatever order they are given. -/
theorem Ascending.ofList_eq_of_perm (h : Ascending d) {entries : List (String × α)}
    (hperm : entries.Perm d) : ofList entries = d := by
  have hne : entries.Pairwise fun a b => a.1 ≠ b.1 :=
    (hperm.pairwise_iff fun hne => hne.symm).2 (h.imp fun hlt => hlt.ne)
  have hmerge := perm_merge (d := []) hne fun _ _ _ hb => absurd hb List.not_mem_nil
  rw [List.append_nil] at hmerge
  exact (hmerge.trans hperm).eq_of_pairwise
    (fun a b _ _ hab hba => absurd (hab.trans hba) (lt_irrefl _)) (ascending_ofList entries) h

theorem get?_eq_none_of_forall_lt (h : ∀ a ∈ d, name < a.1) : get? d name = none := by
  rw [get?, List.lookup_eq_none_iff]
  intro a ha
  simpa using (h a ha).ne

theorem get?_cons (a : String × α) (d : Dictionary α) (name : String) :
    get? (a :: d) name = if name = a.1 then some a.2 else get? d name := by
  obtain ⟨key, value⟩ := a
  by_cases h : name = key
  · simp [get?, h]
  · have hne : (name == key) = false := by simp [h]
    simp [get?, h, List.lookup_cons, hne]

/-- What is found under a name stands there. -/
theorem mem_of_get? {value : α} (h : get? d name = some value) : (name, value) ∈ d := by
  obtain ⟨before, after, rfl, -⟩ := List.lookup_eq_some_iff.1 h
  simp

/-- What is found under a name is what stands there. -/
theorem Ascending.mem_iff_get? (h : Ascending d) {value : α} :
    (name, value) ∈ d ↔ get? d name = some value := by
  induction d with
  | nil => simp [get?]
  | cons a d ih =>
    have hbelow := (List.pairwise_cons.1 h).1
    rw [get?_cons, List.mem_cons, ih h.tail]
    split_ifs with heq
    · subst heq
      rw [get?_eq_none_of_forall_lt hbelow, Option.some.injEq]
      simp [Prod.ext_iff, eq_comm]
    · simp [Prod.ext_iff, heq]

/-- What has been put in its place is found there. -/
theorem get?_insert (d : Dictionary α) (name : String) (value : α) (other : String) :
    get? (insert name value d) other = if other = name then some value else get? d other := by
  induction d with
  | nil => simp [insert, get?_cons]
  | cons a d ih =>
    obtain ⟨key, v⟩ := a
    rw [insert]
    by_cases heq : name = key
    · subst heq
      rw [if_pos rfl, get?_cons, get?_cons]
      split_ifs <;> rfl
    · rw [if_neg heq]
      by_cases hlt : name < key
      · rw [if_pos hlt, get?_cons]
      · rw [if_neg hlt, get?_cons, get?_cons, ih]
        by_cases hkey : other = key
        · rw [if_pos hkey, if_neg fun hname => heq (hname.symm.trans hkey), if_pos hkey]
        · rw [if_neg hkey, if_neg hkey]

/-- After a merge the entry of a name is the last of the entries with it, or else what was there. -/
theorem get?_merge (d : Dictionary α) (he : Ascending e) (name : String) :
    get? (merge d e) name = (get? e name).or (get? d name) := by
  induction e generalizing d with
  | nil => rfl
  | cons a e ih =>
    have hbelow := (List.pairwise_cons.1 he).1
    have hstep : merge d (a :: e) = merge (insert a.1 a.2 d) e := rfl
    rw [hstep, ih _ he.tail, get?_insert, get?_cons]
    split_ifs with hname
    · subst hname
      rw [get?_eq_none_of_forall_lt hbelow]
      rfl
    · rfl

end Autofix.Dictionary
