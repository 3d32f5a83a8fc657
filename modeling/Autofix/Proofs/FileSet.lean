import Autofix.FileSet
import Autofix.Proofs.Disk.Listed

/-!
# The files below a folder

Include patterns select from all files below a folder. The walk that lists them comes to an end on
every disk, and its listing is in order, has no folders in it, and has every file of the tree below
the folder (`FileSet.allBelow_listing`).

Loops are passed over if they lead back to a folder that the walk is inside of. Links that only lead
to each other, or a link that leads to itself, lead nowhere: the walk is not told of a loop then but
of an error, and lists nothing at all (`FileSet.allBelow_fails_on_circle`). So where loops are the
only irregularities, there is a listing, and patterns can select from it, exactly if there are none
of this kind (`FileSet.allBelow_skips_loops_iff`).
-/

namespace Autofix.FileSet

variable {d : Disk} {dir : Path} {files : List Path} {patterns : List String}

theorem allBelow_eq_ok_iff :
    (allBelow d dir).result = .ok files ↔ (d.filesBelow dir).1 = .ok files :=
  mapError_eq_ok_iff

/-- On every disk the walk below a folder comes to an end, with one listing. Its files are in the
    order of paths, each once; nothing in it leads to a folder; and each file that has some names
    below the folder is in it under these names. -/
theorem allBelow_listing (hroot : d.root.WellNamed) (dir : Path) :
    (∃ r, (∀ r', d.WalksBelow dir r' ↔ r' = r) ∧ allBelow d dir = ⟨r.1.mapError .walk, r.2⟩) ∧
    ∀ files, (allBelow d dir).result = .ok files →
      files.Pairwise (fun p q => p.compare q = .lt) ∧ files.Nodup ∧
      (∀ p ∈ files, ∀ place t, d.stat p = .ok (place, t) → t.isFolder = false) ∧
      ∀ place folder names content, d.stat dir = .ok (place, folder) → names ≠ [] →
        folder.get? names = some (.file content) → dir.descend names ∈ files := by
  refine ⟨⟨d.filesBelow dir, fun r' => Disk.walksBelow_iff, rfl⟩, fun files hfiles => ?_⟩
  have hok := allBelow_eq_ok_iff.1 hfiles
  have hascending := Disk.pairwise_filesBelow hroot hok
  refine ⟨hascending, hascending.imp ?_, fun p hp place t hstat => ?_,
    fun place folder names content hstat hne hget => ?_⟩
  · rintro p _ hlt rfl
    exact Path.compareComponents_ne_lt_of_prefix List.prefix_rfl hlt
  · exact Disk.isFolder_of_mem_filesBelow hroot hok hp hstat
  · have hsees : d.Sees dir (dir.descend names) (.file content) :=
      ⟨place, folder, hstat, Disk.comes_of_get? hne hget⟩
    exact (Disk.mem_filesBelow_iff hok).2 ⟨_, hsees, trivial⟩

/-! ### A folder with links to folders -/

/-- A folder with a link back to it, and with a link to a folder in it. -/
def linked : Disk :=
  ⟨.folder [("back", .link "."), ("linked", .link "real"),
    ("real", .folder [("a.ts", .file (.text "a"))])], [], none⟩

theorem wellNamed_linked : linked.root.WellNamed := by
  have hreal : (Disk.Tree.folder [("a.ts", .file (.text "a"))]).WellNamed := by
    refine Disk.Tree.wellNamed_folder ?_
    simp only [List.forall_mem_cons, Disk.Tree.wellNamed_file, and_true, List.not_mem_nil,
      false_imp_iff, implies_true]
    decide
  refine Disk.Tree.wellNamed_folder ?_
  simp only [List.forall_mem_cons, Disk.Tree.wellNamed_link, hreal, and_true, List.not_mem_nil,
    false_imp_iff, implies_true]
  decide

/-- The link to the folder is followed, and the link back is passed over. -/
theorem allBelow_linked : (allBelow linked ⟨"/"⟩).result =
    .ok [⟨"/linked/a.ts"⟩, ⟨"/real/a.ts"⟩] := rfl

theorem allBelow_listing_linked :
    (∃ r, (∀ r', linked.WalksBelow ⟨"/"⟩ r' ↔ r' = r) ∧
        allBelow linked ⟨"/"⟩ = ⟨r.1.mapError .walk, r.2⟩) ∧
      [⟨"/linked/a.ts"⟩, ⟨"/real/a.ts"⟩].Pairwise (fun p q : Path => p.compare q = .lt) ∧
      Path.descend ⟨"/"⟩ ["real", "a.ts"] ∈ ([⟨"/linked/a.ts"⟩, ⟨"/real/a.ts"⟩] : List Path) := by
  obtain ⟨hends, hlists⟩ := allBelow_listing wellNamed_linked ⟨"/"⟩
  obtain ⟨hascending, -, -, hfile⟩ := hlists _ allBelow_linked
  exact ⟨hends, hascending, hfile [] _ ["real", "a.ts"] (.text "a") rfl (by decide) rfl⟩

/-! ### Loops -/

/-- Files can be selected by patterns if the patterns can be read and there is a listing. -/
theorem exists_included_iff : (∃ files, (included d patterns dir).result = .ok files) ↔
    patterns = [] ∨ (∃ matcher, Include.Matcher.ofPatterns? patterns = .ok matcher) ∧
      ∃ files, (allBelow d dir).result = .ok files := by
  rw [included]
  cases patterns with
  | nil => exact iff_of_true ⟨[], rfl⟩ (.inl rfl)
  | cons pattern patterns =>
    rw [List.isEmpty_cons, if_neg Bool.false_ne_true]
    simp only [Traced.bind_result, bind_eq_ok_iff, Traced.ofExcept, Traced.note_result,
      Traced.pure_result, List.cons_ne_nil, false_or]
    constructor
    · rintro ⟨-, matcher, hmatcher, -, -, all, hall, -⟩
      exact ⟨⟨matcher, hmatcher⟩, all, hall⟩
    · rintro ⟨⟨matcher, hmatcher⟩, all, hall⟩
      exact ⟨_, matcher, hmatcher, (), trivial, all, hall, (), trivial, rfl⟩

/-- The files below a folder are listed, all that the walk has come to, without folders and without
    links back to a folder that it is inside of, exactly if there is nothing wrong but loops, and no
    link that the walk comes to leads in a circle; and only then patterns can select files. -/
theorem allBelow_skips_loops_iff :
    ((∃ files, (allBelow d dir).result = .ok files ∧
        ∀ p, p ∈ files ↔ ∃ v, d.Sees dir p v ∧ d.IsListed p v) ↔
      d.OnlyLoops dir ∧ ∀ p v, d.Sees dir p v → ¬d.Circles p v) ∧
    ∀ patterns, (∃ files, (included d patterns dir).result = .ok files) ↔
      patterns = [] ∨ (∃ matcher, Include.Matcher.ofPatterns? patterns = .ok matcher) ∧
        d.OnlyLoops dir ∧ ∀ p v, d.Sees dir p v → ¬d.Circles p v := by
  have hiff : (∃ files, (allBelow d dir).result = .ok files) ↔
      d.OnlyLoops dir ∧ ∀ p v, d.Sees dir p v → ¬d.Circles p v := by
    simp only [allBelow_eq_ok_iff, Disk.exists_filesBelow_iff, Disk.walkable_iff]
  refine ⟨⟨fun ⟨files, hok, _⟩ => hiff.1 ⟨files, hok⟩, fun h => ?_⟩, fun patterns => ?_⟩
  · obtain ⟨files, hok⟩ := hiff.2 h
    exact ⟨files, hok, fun p => Disk.mem_filesBelow_iff (allBelow_eq_ok_iff.1 hok)⟩
  · rw [exists_included_iff, hiff]

/-! ### A folder with a link to itself -/

/-- A folder with a file, and with a link to itself. -/
def circled : Disk :=
  ⟨.folder [("a.ts", .file (.text "a")), ("self", .link "self")], [], none⟩

theorem circles_self : circled.Circles ⟨"/self"⟩ (.link "self") := by
  have hstep : ∀ links,
      Disk.resolve circled.root true links [] ["self"] = .error .tooManyLinks := fun links => by
    induction links with
    | zero => rfl
    | succ links ih => exact ih
  intro links
  have hparts : Disk.parts "/self" = ["", "self"] := by decide
  rw [hparts]
  cases links with
  | zero => rfl
  | succ links => exact hstep links

/-- What the walk comes to: the file and the link. -/
theorem sees_circled {p : Path} {v : Disk.Tree} : circled.Sees ⟨"/"⟩ p v ↔
    p = ⟨"/a.ts"⟩ ∧ v = .file (.text "a") ∨ p = ⟨"/self"⟩ ∧ v = .link "self" := by
  have hstat : circled.stat ⟨"/"⟩ = .ok ([], circled.root) := rfl
  have hchildren : circled.root.children =
      [("a.ts", .file (.text "a")), ("self", .link "self")] := rfl
  have hfile : ∀ inside path place there t,
      ¬circled.Opens inside path place (.file (.text "a")) there t := by
    rintro inside path place there t ⟨⟩
  have hself : ∀ inside place there t,
      ¬circled.Opens inside ((⟨"/"⟩ : Path).join ⟨"self"⟩) place (.link "self") there t := by
    rintro inside place there t (_ | hleads)
    have hcircle : circled.stat ((⟨"/"⟩ : Path).join ⟨"self"⟩) = .error .tooManyLinks := rfl
    cases hcircle.symm.trans hleads
  rw [Disk.sees_iff hstat, hchildren, Disk.comes_cons_iff, Disk.comes_cons_iff]
  simp only [hfile, hself, Disk.not_comes_nil, false_and, exists_false, false_or, or_false]
  rfl

theorem onlyLoops_circled : circled.OnlyLoops ⟨"/"⟩ := by
  refine ⟨rfl, fun p v h => ?_⟩
  obtain ⟨rfl, rfl⟩ | ⟨rfl, rfl⟩ := sees_circled.1 h
  · exact .inl trivial
  · exact .inr circles_self

theorem allBelow_circled :
    (allBelow circled ⟨"/"⟩).result = .error (.walk ⟨⟨"/self"⟩, .tooManyLinks⟩) := rfl

/-- There is nothing wrong but a loop, which is a link to itself. But because of it the file beside
    it is not listed, and patterns select nothing. -/
theorem allBelow_fails_on_circle : circled.OnlyLoops ⟨"/"⟩ ∧
    circled.Sees ⟨"/"⟩ ⟨"/a.ts"⟩ (.file (.text "a")) ∧
    (allBelow circled ⟨"/"⟩).result = .error (.walk ⟨⟨"/self"⟩, .tooManyLinks⟩) ∧
    ¬∃ files, (included circled ["*.ts"] ⟨"/"⟩).result = .ok files := by
  refine ⟨onlyLoops_circled, sees_circled.2 (.inl ⟨rfl, rfl⟩), allBelow_circled, fun h => ?_⟩
  obtain ⟨-, files, hok⟩ := (exists_included_iff.1 h).resolve_left (List.cons_ne_nil _ _)
  cases hok.symm.trans allBelow_circled

end Autofix.FileSet
