import Autofix.Proofs.Disk.Lookup
import Autofix.Proofs.Disk.Walk

/-!
# Where names below a folder lead

Names behind a path that leads to a folder lead to what has these names in the folder, as far as they
can be looked up at all (`Disk.find_descend`): none of them is a link that would be followed, except
for the last one, and no name goes up.
-/

namespace Autofix

namespace Disk

variable {root t folder : Tree} {place : Place} {names front parts : List String}
  {jump jump' : Place → List String → Except IoError Found} {r : Except IoError Found} {d : Disk}
  {base : Path}

/-- Two paths lead to the same, whether or not a link at their end is followed. -/
def LeadsAlike (d : Disk) (p q : Path) : Prop := ∀ last, d.find last p = d.find last q

theorem LeadsAlike.stat_eq {p q : Path} (h : d.LeadsAlike p q) : d.stat p = d.stat q := by
  rw [stat, stat, h true]

/-! ### Names -/

theorem Tree.get?_append (place rest : Place) :
    root.get? (place ++ rest) = (root.get? place).bind fun t => t.get? rest := by
  induction place generalizing root with
  | nil => rw [List.nil_append, get?, Option.bind_some]
  | cons name place ih =>
    have hcons : root.get? (name :: place) = _ := get?_cons
    rw [List.cons_append, get?_cons, hcons, Option.bind_assoc]
    exact Option.bind_congr fun t _ => ih

/-- Only a folder has anything below it. -/
theorem Tree.isFolder_of_get? (hget : t.get? names = some folder) (hne : names ≠ []) :
    t.isFolder := by
  obtain ⟨name, rest, rfl⟩ := List.exists_cons_of_ne_nil hne
  cases t with
  | file | link => cases hget
  | folder entries => rfl

/-- A folder holds no text. -/
theorem readText_of_isFolder {p : Path} (hstat : d.stat p = .ok (place, t)) (hfolder : t.isFolder) :
    d.readText p = .error .isDirectory := by
  cases t with
  | file | link => cases hfolder
  | folder entries =>
    rw [readText, hstat]
    rfl

/-- Where names of entries lead to something, they lead there one by one, unless one is too long. -/
theorem follow_names (hnames : Path.AreEntries names) (hget : root.get? (place ++ names) = some t)
    (jump : Place → List String → Except IoError Found) :
    follow root false jump place names =
      if ∃ name ∈ names, 255 < name.utf8ByteSize then .error .nameTooLong
      else .ok (.node (place ++ names) t) := by
  induction names generalizing place with
  | nil =>
    rw [List.append_nil] at hget
    simp [follow, hget]
  | cons name names ih =>
    obtain ⟨⟨-, hblank, hup⟩, hnames⟩ := List.forall_mem_cons.1 hnames
    rw [List.append_cons] at hget ⊢
    have hsay : isBlank name = false := by
      have hne : name ≠ "" ∧ name ≠ "." := by
        constructor <;> rintro rfl <;> exact absurd hblank (by decide)
      simp [isBlank, hne]
    rw [follow, hsay, if_neg Bool.false_ne_true, if_neg hup]
    by_cases hlong : 255 < name.utf8ByteSize
    · rw [if_pos hlong, if_pos ⟨name, List.mem_cons_self, hlong⟩]
    have hrest : (∃ n ∈ name :: names, 255 < n.utf8ByteSize) ↔ ∃ n ∈ names, 255 < n.utf8ByteSize := by
      simp [hlong]
    simp only [if_neg hlong, hrest]
    have hstep := hget
    rw [Tree.get?_append, Option.bind_eq_some_iff] at hstep
    obtain ⟨u, hu, hbelow⟩ := hstep
    cases names with
    | nil =>
      obtain rfl : u = t := Option.some.inj (by rwa [Tree.get?] at hbelow)
      rw [hu, List.append_nil]
      cases u <;> simp [follow, hu]
    | cons next names =>
      -- Only a folder has anything below it.
      cases u with
      | file | link => cases hbelow
      | folder entries =>
        rw [hu]
        exact ih hnames hget

/-- Behind parts that lead to a folder, further ones go on from there. -/
theorem follow_append_of_folder (hne : names ≠ []) (hfolder : ∀ content, folder ≠ .file content)
    (hjump : ∀ here parts, jump here parts = .ok (.node place folder) →
      jump' here (parts ++ names) = r)
    (hnames : ∀ jump, follow root false jump place names = r) {here : Place}
    (h : follow root true jump here parts = .ok (.node place folder)) :
    follow root false jump' here (parts ++ names) = r := by
  induction parts generalizing here with
  | nil =>
    rw [follow] at h
    cases hget : root.get? here with
    | none => simp [hget] at h
    | some t =>
      rw [hget] at h
      obtain ⟨rfl, -⟩ := Found.node.inj (Except.ok.inj h)
      exact hnames jump'
  | cons part parts ih =>
    have hmore : parts ++ names ≠ [] := List.append_ne_nil_of_right_ne_nil parts hne
    obtain ⟨next, hon⟩ | ⟨target, start, hlink⟩ | ⟨-, -, hend⟩ := follow_cons_cases h
    · rw [hon] at h
      rw [List.cons_append, hon]
      exact ih h
    · rw [hlink, Bool.not_true, if_neg (by simp)] at h
      rw [List.cons_append, hlink, if_neg (by simp [hmore]), ← List.append_assoc]
      exact hjump _ _ h
    · obtain ⟨content, hfile⟩ := hend _ _ rfl
      exact absurd hfile (hfolder content)

theorem resolve_append_of_folder (hne : names ≠ []) (hfolder : ∀ content, folder ≠ .file content)
    (hnames : ∀ jump, follow root false jump place names = r) {links : ℕ} {here : Place}
    (h : resolve root true links here parts = .ok (.node place folder)) :
    resolve root false links here (parts ++ names) = r := by
  induction links generalizing here parts with
  | zero => exact follow_append_of_folder hne hfolder (fun _ _ h => by cases h) hnames h
  | succ links ih => exact follow_append_of_folder hne hfolder (fun _ _ h => ih h) hnames h

/-- What has some names in the folder that a path leads to, is what the names lead to behind this
    path, if they can be looked up. -/
theorem find_descend (hnames : Path.AreEntries names) (hne : names ≠ [])
    (hstat : d.stat base = .ok (place, folder)) (hget : folder.get? names = some t) {found : Found}
    (h : d.find false (base.descend names) = .ok found) : found = .node (place ++ names) t := by
  have hroot : d.root.get? (place ++ names) = some t := by
    rw [Tree.get?_append, get?_of_stat hstat, Option.bind_some, hget]
  have hfolder : ∀ content, folder ≠ .file content := by
    rintro content rfl
    obtain ⟨name, rest, rfl⟩ := List.exists_cons_of_ne_nil hne
    cases hget
  have hbase : base ≠ ⟨""⟩ := by
    rintro rfl
    cases hstat
  have hrelative : (Path.ofNames (names.map String.toList)).isAbsolute = false := by
    simpa using Path.isAbsolute_ofNames hnames.areNames (by simpa using hne) Path.saying_nil
  obtain ⟨front, -, hfront, hjoin⟩ := Path.exists_written_join hbase
  obtain ⟨hwritten, hsplit⟩ := hjoin _ hrelative
  rw [← Path.descend_eq_join hnames hne] at hwritten hsplit
  have habsolute : (base.descend names).isAbsolute = base.isAbsolute := by
    rw [Bool.eq_iff_iff, Path.isAbsolute_iff, Path.isAbsolute_iff, hsplit]
  -- The parts are those of the folder, up to blank ones, and then the names.
  have hparts : Respelled (parts (base.descend names).text) (Disk.parts base.text ++ names) := by
    refine ⟨front.map String.ofList, Disk.parts base.text, names, hne, ?_, ?_, rfl⟩
    · rw [parts_text, saying_map_ofList, saying_map_ofList, hfront]
    · rw [parts_text, hwritten, Path.written_ofNames_self hnames.areNames (by simpa using hne),
        List.map_append, List.map_map]
      simp
  have hfind := stat_eq_ok_iff.1 hstat
  rw [find] at hfind h
  rw [habsolute] at h
  split_ifs at hfind h
  all_goals
    rw [resolve_respelled linkLimit hparts, resolve_append_of_folder hne hfolder
      (follow_names hnames hroot) hfind] at h
    split_ifs at h
    exact (Except.ok.inj h).symm

end Disk

end Autofix
