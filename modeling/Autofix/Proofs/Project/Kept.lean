import Autofix.Engine.Run
import Autofix.Proofs.Path.Folding
import Autofix.Proofs.Path.Order
import Autofix.Proofs.Project.Reloading

/-!
# What a project keeps

A loaded project keeps one text for each of its members, under the normal form of its path. The
members are normal forms, and none of them is there twice (`Project.nodup_fileNames`), so that every
spelling of a path leads to the text of the member that it is a spelling of, and all other paths lead
to nothing (`Project.load_keeps`).
-/

namespace Autofix.Project

variable {d : Disk} {path base : Path} {f : ProjectFile} {project : Project} {found : List Path}

/-! ### Members -/

/-- Keeping the first of equal paths leaves none of them twice. -/
theorem nodup_distinct (ps : List Path) : (distinct ps).Nodup := by
  have hfold : ∀ seen : List Path, seen.Nodup →
      (ps.foldl (fun seen p => if seen.contains p then seen else seen ++ [p]) seen).Nodup := by
    induction ps with
    | nil => exact fun seen hseen => hseen
    | cons p ps ih =>
      intro seen hseen
      refine ih _ ?_
      dsimp only
      split_ifs with hp
      · exact hseen
      · rw [← List.concat_eq_append]
        exact hseen.concat (by simpa using hp)
  exact hfold [] List.nodup_nil

theorem exists_normalize_of_mem_listed {p : Path} (h : p ∈ listed f base) :
    ∃ q : Path, p = q.normalize := by
  rw [listed_eq, List.mem_eraseDups] at h
  obtain ⟨file, -, rfl⟩ := List.mem_map.1 h
  exact ⟨_, rfl⟩

theorem map_fst_filterMap_kept (ps : List Path) :
    ((ps.filterMap (kept d)).map (·.1)).Sublist ps := by
  induction ps with
  | nil => exact .slnil
  | cons p ps ih =>
    rw [List.filterMap_cons, kept]
    cases SourceText.read d p with
    | ok text => exact ih.cons_cons p
    | error e => exact ih.cons p

/-- The members of a project, whether named or found, are normal forms. -/
theorem normalize_of_mem_fileNames (hroot : d.root.WellNamed)
    (h : (load d path).result = .ok project) {p : Path} (hp : p ∈ project.fileNames) :
    p.normalize = p := by
  obtain ⟨-, f, found, -, -, hfound, -, -, rfl⟩ := load_eq_ok_iff_kept.1 h
  obtain ⟨-, hmem⟩ := matched_spec hroot hfound
  have hp' : p ∈ listed f (baseDir path) ++ found := (map_fst_filterMap_kept _).subset hp
  have hnormal : ∃ q : Path, p = q.normalize := by
    rcases List.mem_append.1 hp' with hlisted | hmatched
    · exact exists_normalize_of_mem_listed hlisted
    · obtain ⟨-, -, names, t, -, -, -, heq⟩ := (hmem p).1 hmatched
      exact ⟨_, heq⟩
  obtain ⟨q, rfl⟩ := hnormal
  exact q.normalize_normalize

/-- No member of a project is there twice. -/
theorem nodup_fileNames (hroot : d.root.WellNamed) (h : (load d path).result = .ok project) :
    project.fileNames.Nodup := by
  obtain ⟨-, f, found, -, -, hfound, -, -, rfl⟩ := load_eq_ok_iff_kept.1 h
  obtain ⟨hsorted, hmem⟩ := matched_spec hroot hfound
  have hfound : found.Nodup := by
    refine hsorted.imp ?_
    rintro p _ hlt rfl
    exact Path.compareComponents_ne_lt_of_prefix List.prefix_rfl hlt
  refine (map_fst_filterMap_kept _).nodup ((nodup_distinct _).append hfound ?_)
  intro p hlisted hmatched
  exact ((hmem p).1 hmatched).2.1 hlisted

/-! ### Texts -/

/-- A project keeps a text for its members, under any spelling. -/
theorem isSome_textOf?_iff (h : (load d path).result = .ok project) (file : Path) :
    (project.textOf? file).isSome ↔ file.normalize ∈ project.fileNames := by
  simp only [Option.isSome_iff_exists, textOf?_eq_some_iff h, exists_and_left, and_iff_left_iff_imp]
  intro hfile
  obtain ⟨-, f, found, -, -, -, -, -, rfl⟩ := load_eq_ok_iff_kept.1 h
  obtain ⟨⟨p, text⟩, hmem, rfl⟩ := List.mem_map.1 hfile
  exact ⟨text, (mem_filterMap_kept_iff.1 hmem).2⟩

/-- The members of a loaded project are normal forms, each there once. For all spellings of a member,
    and for no other path, the project has a text, which is the one that the disk held at its place
    when the project was loaded; so, whatever the disk holds later, a run finds the text of a member
    and fails for every other file. -/
theorem load_keeps (hroot : d.root.WellNamed) (h : (load d path).result = .ok project) :
    project.fileNames.Nodup ∧ (∀ p ∈ project.fileNames, p.normalize = p) ∧
      ∀ file, ((project.textOf? file).isSome ↔ file.normalize ∈ project.fileNames) ∧
        (∀ text, project.textOf? file = some text → SourceText.read d file.normalize = .ok text ∧
          ∀ d', textToLint d' (some project) file = .ok (if text = "" then none else some text)) ∧
        (file.normalize ∉ project.fileNames →
          ∀ d', textToLint d' (some project) file = .error (.fileNotInProject file path)) := by
  refine ⟨nodup_fileNames hroot h, fun p hp => normalize_of_mem_fileNames hroot h hp,
    fun file => ⟨isSome_textOf?_iff h file, fun text htext => ⟨?_, fun d' => ?_⟩,
      fun hfile d' => ?_⟩⟩
  · exact ((textOf?_eq_some_iff h).1 htext).2
  · rw [textToLint, htext]
    rfl
  · have hnone : project.textOf? file = none := by
      rw [← Option.not_isSome_iff_eq_none, isSome_textOf?_iff h]
      exact hfile
    obtain ⟨-, f, found, -, -, -, -, -, rfl⟩ := load_eq_ok_iff_kept.1 h
    rw [textToLint, hnone]
    rfl

/-! ### A project of two sources -/

/-- The project in `sources`. -/
def sourcesProject : Project := ⟨⟨"/project.json"⟩, [(⟨"/b.ts"⟩, "b"), (⟨"/a.ts"⟩, "a")]⟩

/-- The text of a member is kept under another spelling, too, and there is none for the hidden file. -/
theorem load_keeps_sources : sourcesProject.fileNames.Nodup ∧
    (∀ p ∈ sourcesProject.fileNames, p.normalize = p) ∧
    (∃ text, sourcesProject.textOf? ⟨"/x/..//b.ts"⟩ = some text ∧
      SourceText.read sources ⟨"/b.ts"⟩ = .ok text) ∧
    ∀ d', textToLint d' (some sourcesProject) ⟨"/.c.ts"⟩ =
      .error (.fileNotInProject ⟨"/.c.ts"⟩ ⟨"/project.json"⟩) := by
  have hload : (load sources ⟨"/project.json"⟩).result = .ok sourcesProject := load_sources
  obtain ⟨hnodup, hnormal, hkeeps⟩ := load_keeps wellNamed_sources hload
  obtain ⟨hsome, htext, -⟩ := hkeeps ⟨"/x/..//b.ts"⟩
  obtain ⟨-, -, hnone⟩ := hkeeps ⟨"/.c.ts"⟩
  have hnormalize : (⟨"/x/..//b.ts"⟩ : Path).normalize = ⟨"/b.ts"⟩ := by decide
  rw [hnormalize] at hsome htext
  obtain ⟨text, hkept⟩ := Option.isSome_iff_exists.1 (hsome.2 (by decide))
  exact ⟨hnodup, hnormal, ⟨text, hkept, (htext text hkept).1⟩, hnone (by decide)⟩

end Autofix.Project
