import Autofix.Project
import Autofix.Proofs.Disk.Walk
import Autofix.Proofs.Glob.Set
import Mathlib

/-!
# The members of a project

A project comes to its members in two lists. The first one is what its file names, in order and each
path once (`Project.listed_eq`). The second one is what its globs find among what a walk meets, in
the order of paths (`Project.load_members`). The walk meets nothing twice and names below a folder
stay as they are in the normal form of a path, so that the second list has nothing twice either; as
paths that say the same have the same normal form, it even ascends strictly.
-/

namespace Autofix

/-! ### What a project file asks for -/

namespace ProjectFile

variable {f : ProjectFile} {base : Path} {names : List String}

/-- The globs that are there to find members. -/
def Includes (f : ProjectFile) (text : String) : Prop :=
  match f.includes, f.files with
  | some texts, _ => text ∈ texts
  | none, some _ => False
  | none, none => text = "**/*"

theorem mem_effectiveIncludes_iff {text : String} :
    text ∈ f.effectiveIncludes ↔ f.Includes text := by
  obtain ⟨files, includes, excludes, extensions⟩ := f
  cases includes <;> cases files <;> simp [effectiveIncludes, Includes]

/-- The names below the folder of a project that its globs find. -/
structure Finds (f : ProjectFile) (base : Path) (names : List String) : Prop where
  /-- The extension is an allowed one; an empty list allows every name. -/
  extension : let allowed :=
      f.extensions.getD ["ts", "tsx", "mts", "cts", "js", "jsx", "mjs", "cjs"]
    allowed = [] ∨ ∃ e ∈ allowed, (base.descend names).extension? = some e
  not_config : ∀ name ∈ ["lintfix.json", "lintfix.jsonc"],
    (base.descend names).fileName? ≠ some name
  included : ∃ text, f.Includes text ∧ ∃ glob, Glob.ofText? true text = .ok glob ∧
    glob.selects (Path.ofNames (names.map String.toList))
  not_excluded : ∀ text ∈ f.excludes.getD ["**/node_modules/**"],
    ∀ glob, Glob.ofText? true text = .ok glob →
      ¬glob.selects (Path.ofNames (names.map String.toList))

end ProjectFile

namespace Project

variable {d : Disk} {path base : Path} {f : ProjectFile} {project : Project} {named : List Path}
  {includes excludes : List Glob} {names : List String}

/-! ### Named members -/

theorem distinct_eq_eraseDups (ps : List Path) : distinct ps = ps.eraseDups := by
  -- What has been seen so far is kept out of what is still to come.
  have hfold : ∀ seen : List Path,
      ps.foldl (fun seen p => if seen.contains p then seen else seen ++ [p]) seen =
        seen ++ (ps.filter fun p => !seen.contains p).eraseDups := by
    induction ps with
    | nil => simp
    | cons p ps ih =>
      intro seen
      rw [List.foldl_cons, ih]
      by_cases hp : p ∈ seen
      · simp [hp]
      · simp [hp, List.eraseDups_cons, List.filter_filter, Bool.and_comm, Bool.beq_eq_decide_eq]
  exact hfold [] |>.trans (by simp)

/-- The named members are the files of the project, each where it is first named. -/
theorem listed_eq (f : ProjectFile) (base : Path) : listed f base =
    ((f.files.getD []).map fun file => (base.join ⟨file⟩).normalize).eraseDups :=
  distinct_eq_eraseDups _

theorem map_fst_of_readListed {members : List (Path × String)}
    (h : (readListed d named).result = .ok members) : members.map (·.1) = named := by
  induction named generalizing members with
  | nil =>
    obtain rfl := Except.ok.inj h
    rfl
  | cons file rest ih =>
    simp only [readListed, Traced.bind_result, bind_eq_ok_iff, Traced.pure_result,
      Except.ok.injEq] at h
    obtain ⟨text, -, more, hmore, rfl⟩ := h
    rw [List.map_cons, ih hmore]

/-! ### Members found by globs -/

/-- Texts come to globs if each of them is read as one and they make up a set. -/
theorem globs_eq_ok_iff {texts : List String} {gs : List Glob} : globs texts = .ok gs ↔
    texts.mapM (fun text =>
        (Glob.ofText? true text).mapError Problem.invalidProjectGlob) = .ok gs ∧
      Glob.setFlaw? gs = none := by
  simp only [globs, bind_eq_ok_iff, mapError_eq_ok_iff, Glob.asSet_eq_ok_iff]
  constructor
  · rintro ⟨read, hread, hset, rfl⟩
    exact ⟨hread, hset⟩
  · rintro ⟨hread, hset⟩
    exact ⟨gs, hread, hset, rfl⟩

theorem mem_of_globs {texts : List String} {gs : List Glob} (h : globs texts = .ok gs)
    (glob : Glob) : glob ∈ gs ↔ ∃ text ∈ texts, Glob.ofText? true text = .ok glob := by
  have hread := (globs_eq_ok_iff.1 h).1
  clear h
  induction texts generalizing gs with
  | nil =>
    obtain rfl := Except.ok.inj hread
    simp
  | cons text texts ih =>
    simp only [List.mapM_cons, bind_eq_ok_iff, mapError_eq_ok_iff] at hread
    obtain ⟨first, hfirst, more, hmore, hgs⟩ := hread
    obtain rfl := Except.ok.inj hgs
    simp [ih hmore, hfirst, eq_comm]

/-- The globs of a project file that names none. -/
theorem globs_default :
    globs ["**/*"] = .ok [⟨"**/*", [.anyDepth, .star], true⟩] ∧
    globs ["**/node_modules/**"] = .ok [⟨"**/node_modules/**",
      .anyDepth :: "node_modules".toList.map .literal ++ [.descend], true⟩] :=
  ⟨globs_eq_ok_iff.2 ⟨rfl, by decide⟩, globs_eq_ok_iff.2 ⟨rfl, by decide +kernel⟩⟩

theorem hasExtension_iff {allowed : List String} {p : Path} : hasExtension allowed p ↔
    allowed = [] ∨ ∃ e ∈ allowed, p.extension? = some e := by
  simp [hasExtension, Option.any_eq_true, and_comm]

/-- What a walk meets below the folder of a project is a member if the globs find its names. -/
theorem isMatch_iff (hnames : Path.AreEntries names)
    (hincludes : globs f.effectiveIncludes = .ok includes)
    (hexcludes : globs f.effectiveExcludes = .ok excludes) (t : Disk.Tree) :
    isMatch f.effectiveExtensions includes excludes base ⟨base.descend names, t⟩ ↔
      t.isFolder = false ∧ f.Finds base names := by
  -- That one of the globs selects the names is a matter of the texts they are read from.
  have hselects : ∀ {gs texts}, globs texts = .ok gs →
      (Glob.anySelects gs (Path.ofNames (names.map String.toList)) ↔ ∃ text ∈ texts,
        ∃ glob, Glob.ofText? true text = .ok glob ∧
          glob.selects (Path.ofNames (names.map String.toList))) := by
    intro gs texts h
    rw [Glob.anySelects, List.any_eq_true]
    constructor
    · rintro ⟨glob, hmem, hglob⟩
      obtain ⟨text, htext, hread⟩ := (mem_of_globs h glob).1 hmem
      exact ⟨text, htext, glob, hread, hglob⟩
    · rintro ⟨text, htext, glob, hread, hglob⟩
      exact ⟨glob, (mem_of_globs h glob).2 ⟨text, htext, hread⟩, hglob⟩
  have hconfig : ((base.descend names).fileName?.any LintConfig.fileNames.contains = false) ↔
      ∀ name ∈ ["lintfix.json", "lintfix.jsonc"], (base.descend names).fileName? ≠ some name := by
    cases (base.descend names).fileName? with
    | none => simp
    | some name => simp [LintConfig.fileNames]
  rw [isMatch, Path.stripBase?_descend hnames]
  simp only [Bool.and_eq_true, Bool.not_eq_true', Option.any_some, hconfig,
    ← Bool.not_eq_true (Glob.anySelects _ _), hselects hincludes, hselects hexcludes,
    hasExtension_iff, ProjectFile.mem_effectiveIncludes_iff]
  constructor
  · rintro ⟨⟨⟨hfolder, hextension⟩, hname⟩, hincluded, hexcluded⟩
    exact ⟨hfolder, hextension, hname, hincluded,
      fun text htext glob hread hglob => hexcluded ⟨text, htext, glob, hread, hglob⟩⟩
  · rintro ⟨hfolder, hextension, hname, hincluded, hexcluded⟩
    refine ⟨⟨⟨hfolder, hextension⟩, hname⟩, hincluded, ?_⟩
    rintro ⟨text, htext, glob, hread, hglob⟩
    exact hexcluded text htext glob hread hglob

/-- What a walk meets has names that entries of folders may have. -/
theorem areEntries_of_meets {keep : String → Bool} {t : Disk.Tree} (hnames : d.root.WellNamed)
    (h : d.Meets keep base names t) : Path.AreEntries names := by
  cases h with
  | self => exact List.forall_mem_nil _
  | below hstat _ _ hget => exact hnames.of_get? (Disk.get?_of_stat hstat) names t hget

/-- A list of normal forms that has nothing twice ascends strictly once it is sorted. -/
theorem pairwise_sorted {ps : List Path} (hnodup : ps.Nodup)
    (hnormal : ∀ p ∈ ps, ∃ q : Path, p = q.normalize) :
    (sorted ps).Pairwise fun p q => p.compare q = .lt := by
  have hperm : (sorted ps).Perm ps := List.mergeSort_perm ps _
  have hle : (sorted ps).Pairwise fun p q => (p.compare q).isLE :=
    @List.pairwise_mergeSort Path (fun p q => (p.compare q).isLE)
      (fun _ _ _ => Path.compare_trans) (fun p q => by simpa using Path.compare_total p q) ps
  refine (hle.and (hperm.nodup_iff.2 hnodup)).imp_of_mem fun {p q} hp hq h => ?_
  -- Normal forms that compare as equal are the same, and the list has nothing twice.
  obtain ⟨p', rfl⟩ := hnormal p (hperm.mem_iff.1 hp)
  obtain ⟨q', rfl⟩ := hnormal q (hperm.mem_iff.1 hq)
  cases hcompare : p'.normalize.compare q'.normalize with
  | lt => rfl
  | eq => exact absurd (Path.normalize_eq_of_components (Path.components_eq_of_compare hcompare)) h.2
  | gt => exact absurd h.1 (by simp [hcompare])

/-- Globs lead to members if all of them can be read and the walk goes through; without any globs to
    find members there is no walk. -/
theorem matched_eq_ok_iff {found : List Path} :
    (matched d path f named).result = .ok found ↔
      f.effectiveIncludes = [] ∧ found = [] ∨ f.effectiveIncludes ≠ [] ∧
      ∃ includes excludes entries, globs f.effectiveIncludes = .ok includes ∧
        globs f.effectiveExcludes = .ok excludes ∧
        d.entries (fun name => !isHidden name) (baseDir path) = .ok entries ∧
        found = sorted (((entries.filter
          (isMatch f.effectiveExtensions includes excludes (baseDir path))).map
            fun e => e.path.normalize).filter fun p => p ≠ path.normalize && !named.contains p) := by
  rw [matched]
  by_cases hempty : f.effectiveIncludes = []
  · simp [hempty, eq_comm]
  · rw [if_neg (by simpa using hempty)]
    simp only [Traced.bind_result, bind_eq_ok_iff, Traced.ofExcept, mapError_eq_ok_iff,
      Traced.pure_result, Traced.note_result, Except.ok.injEq, hempty, false_and, false_or,
      not_false_iff, true_and, ne_eq]
    constructor
    · rintro ⟨includes, hincludes, excludes, hexcludes, entries, hentries, -, rfl⟩
      exact ⟨includes, excludes, entries, hincludes, hexcludes, hentries, rfl⟩
    · rintro ⟨includes, excludes, entries, hincludes, hexcludes, hentries, rfl⟩
      exact ⟨includes, hincludes, excludes, hexcludes, entries, hentries, ⟨(), rfl⟩⟩

/-- The entries that the globs find, in normal form. -/
theorem mem_map_filter_isMatch_iff {entries : List Disk.Entry}
    (hroot : d.root.WellNamed) (hincludes : globs f.effectiveIncludes = .ok includes)
    (hexcludes : globs f.effectiveExcludes = .ok excludes)
    (hentries : d.entries (fun name => !isHidden name) (baseDir path) = .ok entries) {p : Path} :
    p ∈ (entries.filter (isMatch f.effectiveExtensions includes excludes (baseDir path))).map
        (fun e => e.path.normalize) ↔
      ∃ names t, d.Meets (fun name => !isHidden name) (baseDir path) names t ∧
        t.isFolder = false ∧ f.Finds (baseDir path) names ∧
        p = ((baseDir path).descend names).normalize := by
  simp only [List.mem_map, List.mem_filter, Disk.mem_entries_iff hentries]
  constructor
  · rintro ⟨⟨_, t⟩, ⟨⟨names, hmeets, rfl⟩, hmatch⟩, rfl⟩
    obtain ⟨hfolder, hfinds⟩ :=
      (isMatch_iff (areEntries_of_meets hroot hmeets) hincludes hexcludes t).1 hmatch
    exact ⟨names, t, hmeets, hfolder, hfinds, rfl⟩
  · rintro ⟨names, t, hmeets, hfolder, hfinds, rfl⟩
    exact ⟨⟨_, t⟩, ⟨⟨names, hmeets, rfl⟩, (isMatch_iff (areEntries_of_meets hroot hmeets)
      hincludes hexcludes t).2 ⟨hfolder, hfinds⟩⟩, rfl⟩

/-- A walk meets nothing twice in normal form either: names below a folder are kept by it. -/
theorem nodup_map_normalize_entries {keep : String → Bool} {entries : List Disk.Entry}
    (hroot : d.root.WellNamed) (hentries : d.entries keep base = .ok entries) :
    (entries.map fun e => e.path.normalize).Nodup := by
  refine List.pairwise_map.2
    ((Disk.pairwise_entries hroot hentries).imp_of_mem fun {e e'} he he' hne heq => hne ?_)
  obtain ⟨names, hmeets, hpath⟩ := (Disk.mem_entries_iff hentries).1 he
  obtain ⟨names', hmeets', hpath'⟩ := (Disk.mem_entries_iff hentries).1 he'
  rw [hpath, hpath'] at heq ⊢
  rw [Path.descend_injective_normalize (areEntries_of_meets hroot hmeets)
    (areEntries_of_meets hroot hmeets') heq]

/-- The members found by globs, before they are read. -/
theorem matched_spec {found : List Path} (hroot : d.root.WellNamed)
    (h : (matched d path f named).result = .ok found) :
    found.Pairwise (fun p q => p.compare q = .lt) ∧
    ∀ p, p ∈ found ↔ p ≠ path.normalize ∧ p ∉ named ∧
      ∃ names t, d.Meets (fun name => !isHidden name) (baseDir path) names t ∧
        t.isFolder = false ∧ f.Finds (baseDir path) names ∧
        p = ((baseDir path).descend names).normalize := by
  obtain ⟨hempty, rfl⟩ | ⟨-, includes, excludes, entries, hincludes, hexcludes, hentries, rfl⟩ :=
    matched_eq_ok_iff.1 h
  · refine ⟨List.Pairwise.nil, fun p => iff_of_false List.not_mem_nil ?_⟩
    rintro ⟨-, -, names, t, -, -, hfinds, -⟩
    obtain ⟨text, htext, -⟩ := hfinds.included
    rw [← ProjectFile.mem_effectiveIncludes_iff, hempty] at htext
    exact List.not_mem_nil htext
  · have hmem := fun p => mem_map_filter_isMatch_iff (p := p) hroot hincludes hexcludes hentries
    have hnodup := nodup_map_normalize_entries hroot hentries
    refine ⟨pairwise_sorted (((List.filter_sublist.map _).nodup hnodup).filter _) fun p hp => ?_,
      fun p => ?_⟩
    · obtain ⟨names, -, -, -, -, hp⟩ := (hmem p).1 (List.mem_of_mem_filter hp)
      exact ⟨_, hp⟩
    · rw [sorted, List.mem_mergeSort, List.mem_filter, hmem, and_comm]
      simp [and_assoc]

/-- Of the members found by globs, those that hold a text are read. -/
theorem map_fst_of_readMatched {found : List Path} {members : List (Path × String)}
    (h : (readMatched d found).result = .ok members) :
    (members.map (·.1)).Sublist found ∧
      ∀ p, p ∈ members.map (·.1) ↔ p ∈ found ∧ ∃ text, d.readText p = .ok text := by
  induction found generalizing members with
  | nil =>
    obtain rfl := Except.ok.inj h
    simp
  | cons file rest ih =>
    rw [readMatched] at h
    cases hread : d.readText file with
    | ok text =>
      simp only [SourceText.read, hread, Except.map, Traced.bind_result, bind_eq_ok_iff,
        Traced.pure_result, Except.ok.injEq] at h
      obtain ⟨more, hmore, rfl⟩ := h
      obtain ⟨hsublist, hmem⟩ := ih hmore
      refine ⟨hsublist.cons_cons file, fun p => ?_⟩
      rw [List.map_cons, List.mem_cons, List.mem_cons, hmem]
      by_cases hp : p = file
      · subst hp
        simp [hread]
      · simp [hp]
    | error e =>
      -- What is no text is left out; anything else would have ended the reading.
      have hfile : ∀ p, (∃ text, d.readText p = .ok text) → p ≠ file := by
        rintro p ⟨text, htext⟩ rfl
        rw [hread] at htext
        cases htext
      cases e with
      | notText =>
        simp only [SourceText.read, hread, Except.map, Traced.bind_result, bind_eq_ok_iff,
          Traced.note_result] at h
        obtain ⟨-, -, hmore⟩ := h
        obtain ⟨hsublist, hmem⟩ := ih hmore
        refine ⟨hsublist.cons file, fun p => (hmem p).trans ?_⟩
        rw [List.mem_cons]
        exact ⟨fun h => ⟨.inr h.1, h.2⟩, fun h => ⟨h.1.resolve_left (hfile p h.2), h.2⟩⟩
      | _ => simp [SourceText.read, hread, Except.map, Traced.fail] at h

/-! ### All members -/

/-- Loading a project comes to its members if the project file can be read and understood, the globs
    lead to members, and all members can be read. -/
theorem load_eq_ok_iff : (load d path).result = .ok project ↔
    ∃ text f found namedTexts foundTexts, d.readText path = .ok text ∧
      ProjectFile.ofText path text = .ok f ∧
      (matched d path f (listed f (baseDir path))).result = .ok found ∧
      (readListed d (listed f (baseDir path))).result = .ok namedTexts ∧
      (readMatched d found).result = .ok foundTexts ∧
      project = ⟨path, namedTexts ++ foundTexts⟩ := by
  simp only [load, Traced.bind_result, bind_eq_ok_iff, Traced.ofExcept, mapError_eq_ok_iff,
    Traced.pure_result, Traced.note_result, Except.ok.injEq]
  constructor
  · rintro ⟨text, htext, f, hf, found, hfound, named, hnamed, more, hmore, -, -, rfl⟩
    exact ⟨text, f, found, named, more, htext, hf, hfound, hnamed, hmore, rfl⟩
  · rintro ⟨text, f, found, named, more, htext, hf, hfound, hnamed, hmore, rfl⟩
    exact ⟨text, htext, f, hf, found, hfound, named, hnamed, more, hmore, (), trivial, rfl⟩

/-- The members of a loaded project: what its file names, in order and each path once, and then what
    its globs find below its folder, in strictly ascending order. The latter is what a walk meets
    that follows no links and leaves out hidden names, as far as it is no folder, the globs find it,
    it is neither the project file nor named, and it holds a text. -/
theorem load_members (hroot : d.root.WellNamed) (h : (load d path).result = .ok project) :
    ∃ text f, d.readText path = .ok text ∧ ProjectFile.ofText path text = .ok f ∧
      let base := baseDir path
      let named := ((f.files.getD []).map fun file => (base.join ⟨file⟩).normalize).eraseDups
      ∃ found, project.fileNames = named ++ found ∧
        found.Pairwise (fun p q => p.compare q = .lt) ∧
        ∀ p, p ∈ found ↔ p ≠ path.normalize ∧ p ∉ named ∧ (∃ text, d.readText p = .ok text) ∧
          ∃ names t, d.Meets (fun name => !isHidden name) base names t ∧ t.isFolder = false ∧
            f.Finds base names ∧ p = (base.descend names).normalize := by
  obtain ⟨text, f, found, named, more, htext, hf, hfound, hnamed, hmore, rfl⟩ := load_eq_ok_iff.1 h
  obtain ⟨hsorted, hmem⟩ := matched_spec hroot hfound
  obtain ⟨hsublist, hread⟩ := map_fst_of_readMatched hmore
  refine ⟨text, f, htext, hf, more.map (·.1), ?_, hsorted.sublist hsublist, fun p => ?_⟩
  · rw [fileNames, List.map_append, map_fst_of_readListed hnamed, listed_eq]
  · rw [hread, hmem, listed_eq]
    exact ⟨fun ⟨⟨hpath, hnamed, hmeets⟩, htext⟩ => ⟨hpath, hnamed, htext, hmeets⟩,
      fun ⟨hpath, hnamed, htext, hmeets⟩ => ⟨⟨hpath, hnamed, hmeets⟩, htext⟩⟩

/-! ### A project that names one file and finds another one -/

/-- The project file of `sources`. -/
def sourcesFile : String := "\x7b\"files\": [\"b.ts\"], \"include\": [\"*.ts\"]\x7d"

/-- A folder with three sources, one of which is hidden, and a project. -/
def sources : Disk :=
  ⟨.folder [(".c.ts", .file (.text "c")), ("a.ts", .file (.text "a")), ("b.ts", .file (.text "b")),
    ("project.json", .file (.text sourcesFile))], [], none⟩

theorem wellNamed_sources : sources.root.WellNamed := by
  refine Disk.Tree.wellNamed_folder ?_
  simp only [List.forall_mem_cons, Disk.Tree.wellNamed_file, and_true, List.not_mem_nil,
    false_imp_iff, implies_true]
  decide

theorem load_sources : (load sources ⟨"/project.json"⟩).result =
    .ok ⟨⟨"/project.json"⟩, [(⟨"/b.ts"⟩, "b"), (⟨"/a.ts"⟩, "a")]⟩ := by
  have hfile : ProjectFile.ofText ⟨"/project.json"⟩ sourcesFile =
      .ok { files := some ["b.ts"], includes := some ["*.ts"] } := by cbv
  have hincludes : globs ["*.ts"] =
      .ok [⟨"*.ts", [.star, .literal '.', .literal 't', .literal 's'], true⟩] :=
    globs_eq_ok_iff.2 ⟨rfl, by decide⟩
  have hentries : sources.entries (fun name => !isHidden name) ⟨"/"⟩ = .ok
      [⟨⟨"/"⟩, sources.root⟩, ⟨⟨"/a.ts"⟩, .file (.text "a")⟩, ⟨⟨"/b.ts"⟩, .file (.text "b")⟩,
        ⟨⟨"/project.json"⟩, .file (.text sourcesFile)⟩] := rfl
  refine load_eq_ok_iff.2 ⟨_, _, [⟨"/a.ts"⟩], [(⟨"/b.ts"⟩, "b")], [(⟨"/a.ts"⟩, "a")], rfl, hfile,
    matched_eq_ok_iff.2 (.inr ⟨by decide, _, _, _, hincludes, globs_default.2, hentries, ?_⟩), rfl,
    rfl, rfl⟩
  refine (List.mergeSort_singleton (⟨"/a.ts"⟩ : Path)).symm.trans (congrArg sorted ?_)
  cbv

/-- The members of the project in `sources` are the file it names and the other one it finds, and not
    the hidden one. -/
theorem load_members_sources : ∃ text f, sources.readText ⟨"/project.json"⟩ = .ok text ∧
    ProjectFile.ofText ⟨"/project.json"⟩ text = .ok f ∧
      let base := baseDir ⟨"/project.json"⟩
      let named := ((f.files.getD []).map fun file => (base.join ⟨file⟩).normalize).eraseDups
      ∃ found, [⟨"/b.ts"⟩, ⟨"/a.ts"⟩] = named ++ found ∧
        found.Pairwise (fun p q => p.compare q = .lt) ∧
        ∀ p, p ∈ found ↔ p ≠ Path.normalize ⟨"/project.json"⟩ ∧ p ∉ named ∧
          (∃ text, sources.readText p = .ok text) ∧
          ∃ names t, sources.Meets (fun name => !isHidden name) base names t ∧ t.isFolder = false ∧
            f.Finds base names ∧ p = (base.descend names).normalize :=
  load_members wellNamed_sources load_sources

end Project

end Autofix
