import Autofix.Proofs.Disk.Descend
import Autofix.Proofs.Glob
import Autofix.Proofs.Project.Members

/-!
# Dependencies are no members of a project

What stands in a folder `node_modules` has been put there by others, and no glob of a project is to
make a member of it. The walk would meet it: unlike hidden names and files of configuration, it is
kept out by a glob, the one that a project file excludes if it says nothing about what to exclude.
So it is kept out as long as the globs that are excluded cover it (`ProjectFile.ShutsOut`), which
that glob does (`load_outside_dependencies`); a project file which excludes something else lets it
in (`member_in_dependencies`).

Members are normal forms of what the walk meets. They lie where the walk has been only if these lead
there, too.
-/

namespace Autofix

/-- A path leads into a folder of some name, which lies at or below the folder that another path
    leads to. -/
def Disk.LiesWithin (d : Disk) (name : String) (base p : Path) : Prop :=
  ∃ place folder names t, d.stat base = .ok (place, folder) ∧
    d.find false p = .ok (.node (place ++ names) t) ∧ name ∈ names.dropLast

/-- Whatever is in folders of dependencies is excluded. -/
def ProjectFile.ShutsOut (f : ProjectFile) : Prop :=
  ∀ names : List String, "node_modules" ∈ names.dropLast → ∃ text ∈ f.effectiveExcludes,
    ∃ glob, Glob.ofText? true text = .ok glob ∧
      glob.selects (Path.ofNames (names.map String.toList))

theorem ProjectFile.shutsOut_of_mem {f : ProjectFile}
    (h : "**/node_modules/**" ∈ f.effectiveExcludes) : f.ShutsOut :=
  fun _ hnames => ⟨_, h, Glob.within "node_modules", rfl, Glob.selects_within hnames⟩

namespace Project

variable {d : Disk} {path : Path} {project : Project}

/-- The members that the globs of a project find lie outside of all dependencies below its folder,
    provided that what the walk meets is where its normal form leads, and that the project file
    shuts dependencies out. It does so if it excludes what it excludes by default. -/
theorem load_outside_dependencies (hroot : d.root.WellNamed)
    (h : (load d path).result = .ok project)
    (hnormal : ∀ names t, d.Meets (fun name => !isHidden name) (baseDir path) names t →
      t.isFolder = false →
      d.LeadsAlike ((baseDir path).descend names).normalize ((baseDir path).descend names)) :
    ∃ text f, d.readText path = .ok text ∧ ProjectFile.ofText path text = .ok f ∧
      ("**/node_modules/**" ∈ f.effectiveExcludes → f.ShutsOut) ∧
      ∃ found, project.fileNames = listed f (baseDir path) ++ found ∧
        (f.ShutsOut → ∀ p ∈ found, ¬d.LiesWithin "node_modules" (baseDir path) p) := by
  obtain ⟨text, f, found, named, more, htext, hf, hfound, hnamed, hmore, rfl⟩ := load_eq_ok_iff.1 h
  obtain ⟨-, hmem⟩ := matched_spec hroot hfound
  obtain ⟨-, hread⟩ := map_fst_of_readMatched hmore
  refine ⟨text, f, htext, hf, ProjectFile.shutsOut_of_mem, more.map (·.1), ?_, ?_⟩
  · rw [fileNames, List.map_append, map_fst_of_readListed hnamed]
  rintro hshuts p hp ⟨place, folder, names', t', hstat, hfind, hwithin⟩
  obtain ⟨hp, text', htext'⟩ := (hread p).1 hp
  obtain ⟨-, -, names, t, hmeets, hfolder, hfinds, rfl⟩ := (hmem p).1 hp
  have hnames := areEntries_of_meets hroot hmeets
  have hleads := hnormal names t hmeets hfolder
  have hfind' := (hleads false).symm.trans hfind
  cases hmeets with
  | self =>
    -- What lies below the folder lies in it, and so its own path leads to no text.
    have hget : folder.get? names' = some t' := by
      rw [← Option.bind_some (f := fun t => Disk.Tree.get? t names'), ← Disk.get?_of_stat hstat,
        ← Disk.Tree.get?_append]
      exact Disk.get?_of_find hfind
    have hisFolder := Disk.Tree.isFolder_of_get? hget fun hnil : names' = [] =>
      List.not_mem_nil (hnil ▸ hwithin :)
    have hnone := Disk.readText_of_isFolder (hleads.stat_eq.trans hstat) hisFolder
    cases htext'.symm.trans hnone
  | below hstat' hne _ hget =>
    obtain ⟨rfl, rfl⟩ := Prod.mk.inj (Except.ok.inj (hstat.symm.trans hstat'))
    have hplace := Disk.find_descend hnames hne hstat hget hfind'
    obtain rfl : names' = names := List.append_cancel_left (Disk.Found.node.inj hplace).1
    obtain ⟨text, htext, glob, hglob, hselects⟩ := hshuts _ hwithin
    exact hfinds.not_excluded text htext glob hglob hselects

/-! ### A folder with a dependency -/

/-- A folder with a source, a dependency and a project file. -/
def vendored (file : String) : Disk :=
  ⟨.folder [("a.ts", .file (.text "a")), ("node_modules", .folder [("b.ts", .file (.text "b"))]),
    ("project.json", .file (.text file))], [], none⟩

theorem wellNamed_vendored (file : String) : (vendored file).root.WellNamed := by
  have hdependency : (Disk.Tree.folder [("b.ts", .file (.text "b"))]).WellNamed := by
    refine Disk.Tree.wellNamed_folder ?_
    simp only [List.forall_mem_cons, Disk.Tree.wellNamed_file, and_true, List.not_mem_nil,
      false_imp_iff, implies_true]
    decide
  refine Disk.Tree.wellNamed_folder ?_
  simp only [List.forall_mem_cons, Disk.Tree.wellNamed_file, hdependency, and_true,
    List.not_mem_nil, false_imp_iff, implies_true]
  decide

/-- What a walk meets in such a folder. -/
theorem entries_vendored (file : String) :
    (vendored file).entries (fun name => !isHidden name) ⟨"/"⟩ = .ok
      [⟨⟨"/"⟩, (vendored file).root⟩, ⟨⟨"/a.ts"⟩, .file (.text "a")⟩,
        ⟨⟨"/node_modules"⟩, .folder [("b.ts", .file (.text "b"))]⟩,
        ⟨⟨"/node_modules/b.ts"⟩, .file (.text "b")⟩, ⟨⟨"/project.json"⟩, .file (.text file)⟩] := by
  have hfind : (vendored file).find false ⟨"/"⟩ = .ok (.node [] (vendored file).root) := rfl
  have hchildren : (vendored file).root.children = [("a.ts", .file (.text "a")),
      ("node_modules", .folder [("b.ts", .file (.text "b"))]),
      ("project.json", .file (.text file))] := by
    refine Disk.Tree.children_folder ?_
    simp only [Dictionary.Ascending, List.pairwise_cons, List.forall_mem_cons]
    decide +revert
  have hdependency : (Disk.Tree.folder [("b.ts", .file (.text "b"))]).children =
      [("b.ts", .file (.text "b"))] := Disk.Tree.children_folder (List.pairwise_singleton _ _)
  have hkeep : ∀ name ∈ ["a.ts", "node_modules", "b.ts", "project.json"],
      (!isHidden name) = true := by decide
  simp only [List.forall_mem_cons, List.not_mem_nil, false_imp_iff, implies_true, and_true] at hkeep
  obtain ⟨ha, hm, hb, hp⟩ := hkeep
  have hfile : ∀ content, (Disk.Tree.file content).children = [] := fun _ => rfl
  have hwalk : (vendored file).entries (fun name => !isHidden name) ⟨"/"⟩ =
      Disk.opened (Disk.entriesAt (fun name => !isHidden name) ⟨"/"⟩ 11 (vendored file).root) := by
    rw [Disk.entries, hfind]
    rfl
  have hshort : ∀ p ∈ [⟨"/"⟩, ⟨"/a.ts"⟩, ⟨"/node_modules"⟩, ⟨"/node_modules/b.ts"⟩,
      ⟨"/project.json"⟩], Path.isShort p := by decide
  refine hwalk.trans (Disk.opened_eq_ok_iff.2 ⟨?_, ?_⟩)
  · simp only [List.forall_mem_cons] at hshort
    simp [Disk.entriesAt, Disk.entriesIn, hchildren, hdependency, hfile, ha, hm, hb, hp, Path.join,
      Path.isAbsolute, hshort]
  · simp [Disk.entriesAt, Disk.entriesIn, hchildren, hdependency, hfile, ha, hm, hb, hp, Path.join,
      Path.isAbsolute]

/-- All of it is in normal form. -/
theorem leadsAlike_vendored {file : String} {names : List String} {t : Disk.Tree}
    (h : (vendored file).Meets (fun name => !isHidden name) ⟨"/"⟩ names t) :
    (vendored file).LeadsAlike (Path.descend ⟨"/"⟩ names).normalize (Path.descend ⟨"/"⟩ names) := by
  have hmem := (Disk.mem_entries_iff (e := ⟨Path.descend ⟨"/"⟩ names, t⟩)
    (entries_vendored file)).2 ⟨names, h, rfl⟩
  have hnormal : (Path.descend ⟨"/"⟩ names).normalize = Path.descend ⟨"/"⟩ names := by
    simp only [List.mem_cons, Disk.Entry.mk.injEq, List.not_mem_nil, or_false] at hmem
    obtain ⟨h, -⟩ | ⟨h, -⟩ | ⟨h, -⟩ | ⟨h, -⟩ | ⟨h, -⟩ := hmem <;> rw [h] <;> cbv
  rw [hnormal]
  exact fun _ => rfl

theorem load_vendored : (load (vendored "\x7b\x7d") ⟨"/project.json"⟩).result =
    .ok ⟨⟨"/project.json"⟩, [(⟨"/a.ts"⟩, "a")]⟩ := by
  have hfile : ProjectFile.ofText ⟨"/project.json"⟩ "\x7b\x7d" = .ok {} := by cbv
  refine load_eq_ok_iff.2 ⟨_, _, [⟨"/a.ts"⟩], [], [(⟨"/a.ts"⟩, "a")], rfl, hfile,
    matched_eq_ok_iff.2 (.inr ⟨by decide, _, _, _, globs_default.1, globs_default.2,
      entries_vendored _, ?_⟩),
    rfl, rfl, rfl⟩
  refine (List.mergeSort_singleton (⟨"/a.ts"⟩ : Path)).symm.trans (congrArg sorted ?_)
  cbv

/-- A project file that says nothing keeps the dependency out, and finds the source. -/
theorem load_outside_dependencies_vendored : ∃ text f,
    (vendored "\x7b\x7d").readText ⟨"/project.json"⟩ = .ok text ∧
      ProjectFile.ofText ⟨"/project.json"⟩ text = .ok f ∧
      ("**/node_modules/**" ∈ f.effectiveExcludes → f.ShutsOut) ∧
      ∃ found, [⟨"/a.ts"⟩] = listed f (baseDir ⟨"/project.json"⟩) ++ found ∧
        (f.ShutsOut → ∀ p ∈ found, ¬(vendored "\x7b\x7d").LiesWithin "node_modules"
          (baseDir ⟨"/project.json"⟩) p) :=
  load_outside_dependencies (wellNamed_vendored _) load_vendored
    fun _ _ hmeets _ => leadsAlike_vendored hmeets

/-- A project file that excludes another path makes a member of the dependency. -/
theorem member_in_dependencies :
    let d := vendored "\x7b\"exclude\": [\"a.ts\"]\x7d"
    ProjectFile.ofText ⟨"/project.json"⟩ "\x7b\"exclude\": [\"a.ts\"]\x7d" =
        .ok { excludes := some ["a.ts"] } ∧
      (load d ⟨"/project.json"⟩).result =
        .ok ⟨⟨"/project.json"⟩, [(⟨"/node_modules/b.ts"⟩, "b")]⟩ ∧
      d.LiesWithin "node_modules" (baseDir ⟨"/project.json"⟩) ⟨"/node_modules/b.ts"⟩ := by
  have hfile : ProjectFile.ofText ⟨"/project.json"⟩ "\x7b\"exclude\": [\"a.ts\"]\x7d" =
      .ok { excludes := some ["a.ts"] } := by cbv
  have hexcludes : globs ["a.ts"] =
      .ok [⟨"a.ts", [.literal 'a', .literal '.', .literal 't', .literal 's'], true⟩] :=
    globs_eq_ok_iff.2 ⟨rfl, by decide⟩
  refine ⟨hfile, load_eq_ok_iff.2 ⟨_, _, [⟨"/node_modules/b.ts"⟩], [],
    [(⟨"/node_modules/b.ts"⟩, "b")], rfl, hfile,
    matched_eq_ok_iff.2 (.inr ⟨by decide, _, _, _, globs_default.1, hexcludes,
      entries_vendored _, ?_⟩),
    rfl, rfl, rfl⟩, [], _, ["node_modules", "b.ts"], .file (.text "b"), rfl, rfl, by decide⟩
  refine (List.mergeSort_singleton (⟨"/node_modules/b.ts"⟩ : Path)).symm.trans (congrArg sorted ?_)
  cbv

end Project

end Autofix
