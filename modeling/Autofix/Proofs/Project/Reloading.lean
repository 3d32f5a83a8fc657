import Autofix.FileSet
import Autofix.Proofs.Disk.Emptied
import Autofix.Proofs.Project.Members

/-!
# Loading a project again

The members of a project are settled by its file, by what a walk meets and by which files hold texts
(`Project.load_eq_ok_iff_kept`). So a project has the same members when it is loaded again after
texts have been written to files that held texts before (`Project.exists_load_again`), and a run
lints the same files (`FileSet.exists_resolve_again`). What it keeps for them are the new texts.
-/

namespace Autofix

namespace Disk

/-- Between two disks texts have been written to files that exist, and only to files that held a
    text before. -/
structure Retexted (d d' : Disk) : Prop where
  overwrites : d.Overwrites d'
  readText_eq : ∀ p, d'.readText p = d.readText p ∨
    (∃ s, d.readText p = .ok s) ∧ ∃ s, d'.readText p = .ok s

variable {d d' : Disk} {p : Path}

theorem Retexted.refl (d : Disk) : d.Retexted d := ⟨.refl, fun _ => .inl rfl⟩

theorem Retexted.exists_read_iff (h : d.Retexted d') (p : Path) :
    (∃ text, SourceText.read d' p = .ok text) ↔ ∃ text, SourceText.read d p = .ok text := by
  rcases h.readText_eq p with heq | ⟨⟨s, hs⟩, s', hs'⟩
  · rw [SourceText.read, SourceText.read, heq]
  · rw [SourceText.read, SourceText.read, hs, hs']
    exact iff_of_true ⟨_, rfl⟩ ⟨_, rfl⟩

theorem Retexted.read_error_iff (h : d.Retexted d') (p : Path) (e : IoError) :
    SourceText.read d' p = .error e ↔ SourceText.read d p = .error e := by
  rcases h.readText_eq p with heq | ⟨⟨s, hs⟩, s', hs'⟩
  · rw [SourceText.read, SourceText.read, heq]
  · rw [SourceText.read, SourceText.read, hs, hs']
    exact iff_of_false (fun h => by cases h) (fun h => by cases h)

end Disk

namespace Project

variable {d d' : Disk} {path : Path} {f : ProjectFile} {named found : List Path}
  {members : List (Path × String)} {project : Project}

/-! ### Members with their texts -/

/-- A path with the text that is kept for it, if there is one. -/
def kept (d : Disk) (p : Path) : Option (Path × String) :=
  (SourceText.read d p).toOption.map fun text => (p, text)

theorem readListed_eq_ok_iff : (readListed d named).result = .ok members ↔
    (∀ p ∈ named, ∃ text, SourceText.read d p = .ok text) ∧ members = named.filterMap (kept d) := by
  induction named generalizing members with
  | nil => simp [readListed, eq_comm]
  | cons file rest ih =>
    simp only [readListed, Traced.bind_result, bind_eq_ok_iff, Traced.pure_result, Traced.ofExcept,
      mapError_eq_ok_iff, Except.ok.injEq, ih, List.forall_mem_cons, List.filterMap_cons, kept]
    constructor
    · rintro ⟨text, htext, -, ⟨hrest, rfl⟩, rfl⟩
      exact ⟨⟨⟨text, htext⟩, hrest⟩, by rw [htext]; rfl⟩
    · rintro ⟨⟨⟨text, htext⟩, hrest⟩, rfl⟩
      exact ⟨text, htext, _, ⟨hrest, rfl⟩, by rw [htext]; rfl⟩

theorem readMatched_eq_ok_iff : (readMatched d found).result = .ok members ↔
    (∀ p ∈ found, (∃ text, SourceText.read d p = .ok text) ∨
      SourceText.read d p = .error .notText) ∧ members = found.filterMap (kept d) := by
  induction found generalizing members with
  | nil => simp [readMatched, eq_comm]
  | cons file rest ih =>
    rw [readMatched, List.forall_mem_cons, List.filterMap_cons, kept]
    cases hread : SourceText.read d file with
    | ok text =>
      simp only [Traced.bind_result, bind_eq_ok_iff, Traced.pure_result, Except.ok.injEq, ih]
      constructor
      · rintro ⟨-, ⟨hrest, rfl⟩, rfl⟩
        exact ⟨⟨.inl ⟨text, rfl⟩, hrest⟩, rfl⟩
      · rintro ⟨⟨-, hrest⟩, rfl⟩
        exact ⟨_, ⟨hrest, rfl⟩, rfl⟩
    | error e =>
      cases e with
      | notText =>
        -- A file that holds no text is the only one that is passed over.
        simp only [Traced.bind_result, bind_eq_ok_iff, Traced.note_result, ih]
        constructor
        · rintro ⟨-, -, hrest, rfl⟩
          exact ⟨⟨.inr trivial, hrest⟩, rfl⟩
        · rintro ⟨⟨-, hrest⟩, rfl⟩
          exact ⟨(), trivial, hrest, rfl⟩
      | _ => exact iff_of_false (fun h => by cases h) (fun h => by simp at h)

/-- Loading a project comes to the paths that its file names and those that its globs find, each with
    its text; of the latter those that hold no text are left out. -/
theorem load_eq_ok_iff_kept : (load d path).result = .ok project ↔
    ∃ text f found, d.readText path = .ok text ∧ ProjectFile.ofText path text = .ok f ∧
      (matched d path f (listed f (baseDir path))).result = .ok found ∧
      (∀ p ∈ listed f (baseDir path), ∃ text, SourceText.read d p = .ok text) ∧
      (∀ p ∈ found, (∃ text, SourceText.read d p = .ok text) ∨
        SourceText.read d p = .error .notText) ∧
      project = ⟨path, (listed f (baseDir path) ++ found).filterMap (kept d)⟩ := by
  simp only [load_eq_ok_iff, readListed_eq_ok_iff, readMatched_eq_ok_iff, List.filterMap_append]
  constructor
  · rintro ⟨text, f, found, _, _, htext, hf, hfound, ⟨hlisted, rfl⟩, ⟨hmatched, rfl⟩, rfl⟩
    exact ⟨text, f, found, htext, hf, hfound, hlisted, hmatched, rfl⟩
  · rintro ⟨text, f, found, htext, hf, hfound, hlisted, hmatched, rfl⟩
    exact ⟨text, f, found, _, _, htext, hf, hfound, ⟨hlisted, rfl⟩, ⟨hmatched, rfl⟩, rfl⟩

theorem mem_filterMap_kept_iff {ps : List Path} {p : Path} {text : String} :
    (p, text) ∈ ps.filterMap (kept d) ↔ p ∈ ps ∧ SourceText.read d p = .ok text := by
  simp only [List.mem_filterMap, kept, Option.map_eq_some_iff, Prod.mk.injEq]
  constructor
  · rintro ⟨q, hq, s, hs, rfl, rfl⟩
    refine ⟨hq, ?_⟩
    cases hread : SourceText.read d q with
    | error e => simp [hread, Except.toOption] at hs
    | ok s' => simpa [hread, Except.toOption] using hs
  · rintro ⟨hp, hread⟩
    exact ⟨p, hp, text, by rw [hread]; rfl, rfl, rfl⟩

/-- A loaded project keeps the text that is on the disk, for its members and for nothing else. -/
theorem textOf?_eq_some_iff (h : (load d path).result = .ok project) {file : Path} {text : String} :
    project.textOf? file = some text ↔
      file.normalize ∈ project.fileNames ∧ SourceText.read d file.normalize = .ok text := by
  obtain ⟨-, f, found, -, -, -, -, -, rfl⟩ := load_eq_ok_iff_kept.1 h
  rw [textOf?, fileNames]
  dsimp only
  generalize listed f (baseDir path) ++ found = ps
  have hread : ∀ {p text}, (p, text) ∈ ps.filterMap (kept d) → SourceText.read d p = .ok text :=
    fun hmem => (mem_filterMap_kept_iff.1 hmem).2
  constructor
  · intro hlookup
    obtain ⟨before, after, hmembers, -⟩ := List.lookup_eq_some_iff.1 hlookup
    have hmem : (file.normalize, text) ∈ ps.filterMap (kept d) :=
      hmembers ▸ List.mem_append_right _ List.mem_cons_self
    exact ⟨List.mem_map_of_mem (f := (·.1)) hmem, hread hmem⟩
  · rintro ⟨hname, htext⟩
    cases hlookup : (ps.filterMap (kept d)).lookup file.normalize with
    | none =>
      obtain ⟨m, hm, heq⟩ := List.mem_map.1 hname
      have hne := List.lookup_eq_none_iff.1 hlookup m hm
      simp [heq] at hne
    | some text' =>
      -- Whichever entry is found under the path, it holds the text that is on the disk.
      obtain ⟨before, after, hmembers, -⟩ := List.lookup_eq_some_iff.1 hlookup
      have htext' := hread (hmembers ▸ List.mem_append_right _ List.mem_cons_self)
      rw [Except.ok.inj (htext'.symm.trans htext)]

/-! ### After texts have been written -/

/-- Of what a walk meets only the path and the kind of the node matter for being a member. -/
theorem map_filter_isMatch_congr {extensions : List String} {includes excludes : List Glob}
    {base : Path} {es es' : List Disk.Entry}
    (h : es'.map Disk.Entry.emptied = es.map Disk.Entry.emptied) :
    (es'.filter (isMatch extensions includes excludes base)).map (fun e => e.path.normalize) =
      (es.filter (isMatch extensions includes excludes base)).map fun e => e.path.normalize := by
  have hmatch : ∀ e : Disk.Entry, isMatch extensions includes excludes base e.emptied =
      isMatch extensions includes excludes base e := fun e => by
    simp only [isMatch, Disk.Entry.emptied, Disk.Tree.isFolder_emptied]
  have hfilter : ∀ es : List Disk.Entry,
      ((es.map Disk.Entry.emptied).filter (isMatch extensions includes excludes base)).map
        (fun e => e.path.normalize) =
      (es.filter (isMatch extensions includes excludes base)).map fun e => e.path.normalize :=
    fun es => by
      rw [List.filter_map, List.map_map]
      simp only [Function.comp_def, hmatch]
      rfl
  rw [← hfilter es', h, hfilter]

/-- The globs of a project find the same. -/
theorem matched_again (h : d.Overwrites d') (hfound : (matched d path f named).result = .ok found) :
    (matched d' path f named).result = .ok found := by
  rw [matched_eq_ok_iff] at hfound ⊢
  refine hfound.imp id fun ⟨hne, includes, excludes, es, hincludes, hexcludes, hes, hsorted⟩ => ?_
  have hentries := h.entries_eq (fun name => !isHidden name) (baseDir path)
  rw [hes] at hentries
  cases hes' : d'.entries (fun name => !isHidden name) (baseDir path) with
  | error e =>
    rw [hes'] at hentries
    cases hentries
  | ok es' =>
    rw [hes'] at hentries
    have hmap := Except.ok.inj hentries
    exact ⟨hne, includes, excludes, es', hincludes, hexcludes, rfl,
      by rw [hsorted, map_filter_isMatch_congr hmap]⟩

/-- A project has the same members when it is loaded again, if its file is still the same. -/
theorem exists_load_again (h : d.Retexted d') (hpath : d'.readText path = d.readText path)
    (hload : (load d path).result = .ok project) :
    ∃ project', (load d' path).result = .ok project' ∧ project'.fileNames = project.fileNames := by
  obtain ⟨text, f, found, htext, hf, hfound, hlisted, hmatched, rfl⟩ := load_eq_ok_iff_kept.1 hload
  refine ⟨_, load_eq_ok_iff_kept.2 ⟨text, f, found, hpath.trans htext, hf,
    matched_again h.overwrites hfound, fun p hp => (h.exists_read_iff p).2 (hlisted p hp),
    fun p hp => (hmatched p hp).imp (h.exists_read_iff p).2 (h.read_error_iff p _).2, rfl⟩, ?_⟩
  rw [fileNames, fileNames, List.map_filterMap, List.map_filterMap]
  refine List.filterMap_congr fun p _ => ?_
  rw [kept, kept, Option.map_map, Option.map_map]
  by_cases hread : ∃ text, SourceText.read d p = .ok text
  · obtain ⟨text, htext⟩ := hread
    obtain ⟨text', htext'⟩ := (h.exists_read_iff p).2 ⟨text, htext⟩
    rw [htext, htext']
    rfl
  · cases hd : SourceText.read d p with
    | ok text => exact absurd ⟨text, hd⟩ hread
    | error e => rw [(h.read_error_iff p e).2 hd]

end Project

/-! ### The files of a run -/

namespace FileSet

variable {d d' : Disk} {options : TaskOptions} {root : Path} {set : FileSet}

/-- A project has been loaded for a run on two disks and has the same members. -/
def Reloaded (d d' : Disk) (project project' : Project) : Prop :=
  ∃ path, (Project.load d path).result = .ok project ∧
    (Project.load d' path).result = .ok project' ∧ project'.fileNames = project.fileNames

theorem included_eq (h : d.Overwrites d') (patterns : List String) (root : Path) :
    included d' patterns root = included d patterns root := by
  rw [included, included, allBelow, allBelow, h.filesBelow_eq]

/-- A run lints the same files, of the same project, if its file is still the same. -/
theorem exists_resolve_again (h : d.Retexted d')
    (hproject : ∀ p, options.compilerConfigPath = some p →
      d'.readText (root.join p) = d.readText (root.join p))
    (hset : (resolve d options root).result = .ok set) :
    ∃ set', (resolve d' options root).result = .ok set' ∧ set'.files = set.files ∧
      Option.Rel (Reloaded d d') set.project set'.project := by
  simp only [resolve, Traced.bind_result, bind_eq_ok_iff, Traced.note_result, Traced.pure_result,
    Except.ok.injEq, included_eq h.overwrites] at hset ⊢
  obtain ⟨first, hfirst, more, hmore, -, -, rfl⟩ := hset
  -- The project has been read again; only the texts of its members may be different.
  have hfirst' : ∃ first', (named d' options root).result = .ok first' ∧
      first'.files = first.files ∧ Option.Rel (Reloaded d d') first.project first'.project := by
    rw [named] at hfirst ⊢
    cases hconfig : options.compilerConfigPath with
    | none =>
      rw [hconfig] at hfirst
      obtain rfl := Except.ok.inj hfirst
      exact ⟨_, rfl, rfl, .none⟩
    | some p =>
      rw [hconfig] at hfirst
      dsimp only at hfirst ⊢
      rw [h.overwrites.has_eq]
      split_ifs at hfirst ⊢
      · simp only [Traced.bind_result, bind_eq_ok_iff, Traced.pure_result, Except.ok.injEq]
          at hfirst ⊢
        obtain ⟨project, hload, rfl⟩ := hfirst
        obtain ⟨project', hload', hnames⟩ := Project.exists_load_again h (hproject p hconfig) hload
        exact ⟨_, ⟨project', hload', rfl⟩, hnames, .some ⟨_, hload, hload', hnames⟩⟩
      · cases hfirst
      · obtain rfl := Except.ok.inj hfirst
        exact ⟨_, rfl, rfl, .none⟩
  obtain ⟨first', hfirst', hfiles, hrel⟩ := hfirst'
  exact ⟨_, ⟨first', hfirst', more, hmore, (), trivial, rfl⟩, by rw [hfiles], hrel⟩

/-- The project of a run has been loaded. -/
theorem exists_load_of_resolve {project : Project}
    (hset : (resolve d options root).result = .ok set) (hproject : set.project = some project) :
    ∃ path, (Project.load d path).result = .ok project := by
  obtain ⟨set', -, -, hrel⟩ := exists_resolve_again (.refl d) (fun _ _ => rfl) hset
  rw [hproject] at hrel
  generalize set'.project = project' at hrel
  cases hrel with
  | some hreloaded =>
    obtain ⟨path, hload, -⟩ := hreloaded
    exact ⟨path, hload⟩

end FileSet

end Autofix
