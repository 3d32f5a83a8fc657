import Autofix.Proofs.Disk.Lookup
import Autofix.Proofs.Path.Folder
import Autofix.Proofs.Project.Members

/-!
# Projects in the current folder

A file in the current folder is the same one under its bare name and with `./` in front of it
(`Disk.find_here`). The folder of a bare name is the empty path. In normal form, what a project file
names is spelled in the same way below it and below `.` (`Path.normalize_join_of_here`). But the
empty path leads nowhere, and no walk starts from it: under its bare name, a project file that asks
for globs is never loaded (`Project.load_bare_eq_ok_iff`). So the two spellings come to the same
only where members are asked for by name (`Project.load_bare_alike_iff`).
-/

namespace Autofix

variable {name : String}

/-! ### Two spellings of one path -/

namespace Path

variable {p : Path}

theorem AreEntries.components_mk (h : AreEntries [name]) :
    (⟨name⟩ : Path).components = [.name name] := by
  have hcomponents := components_descend h ⟨""⟩
  rwa [descend, List.foldl_cons, List.foldl_nil, empty_join] at hcomponents

theorem AreEntries.here_join (h : AreEntries [name]) :
    (⟨"."⟩ : Path).join ⟨name⟩ = ⟨"./" ++ name⟩ := by
  rw [join, isAbsolute_name (h name List.mem_cons_self).1]
  rfl

/-- Normal forms do not say that a path starts here. -/
theorem normalize_join_of_here (hp : p.components = [.here]) (q : Path) :
    (p.join q).normalize = q.normalize := by
  have hhere : p.components = (⟨"."⟩ : Path).components := hp.trans (by decide)
  rw [normalize_congr (components_join_congr hhere q)]
  cases hq : q.isAbsolute with
  | true => rw [join_of_isAbsolute hq]
  | false =>
    obtain ⟨front, -, hfront, hjoin⟩ := exists_written_join (by decide : (⟨"."⟩ : Path) ≠ ⟨""⟩)
    obtain ⟨hwritten, hlead⟩ := hjoin q hq
    have hsaying : saying ((⟨"."⟩ : Path).join q).written = saying q.written := by
      rw [hwritten, saying_append, hfront]
      rfl
    have habsolute : ((⟨"."⟩ : Path).join q).isAbsolute = false := by
      rw [Bool.eq_false_iff, ne_eq, isAbsolute_iff, hlead]
      decide
    simp only [normalize, components_eq, foldl_fold_lead, hsaying, habsolute, hq]

end Path

namespace Disk

theorem parts_here (name : String) : parts ("./" ++ name) = "." :: parts name := by
  have htext : ("./" ++ name).toList = ['.'] ++ '/' :: name.toList := by simp
  rw [parts, parts, htext, Text.fields_eq_splitOn, Text.fields_eq_splitOn,
    List.splitOn_append_cons_self, List.map_append]
  rfl

/-- A name with `./` in front leads to the same as the bare name. -/
theorem find_here (hname : Path.AreEntries [name]) (d : Disk) (last : Bool) :
    d.find last ⟨"./" ++ name⟩ = d.find last ⟨name⟩ := by
  obtain ⟨hslash, hblank, hup⟩ := hname name List.mem_cons_self
  have hparts : parts name = [name] := by
    rw [parts_text ⟨name⟩, Path.written_name hslash, List.map_singleton, String.ofList_toList]
  have hempty : name ≠ "" ∧ name ≠ "." := by
    constructor <;> rintro rfl <;> exact absurd hblank (by decide)
  have hempty' : "./" ++ name ≠ "" := by simp
  have hnul : ("./" ++ name).toList.contains '\x00' = name.toList.contains '\x00' := by simp
  have habsolute : (⟨"./" ++ name⟩ : Path).isAbsolute = false := by simp [Path.isAbsolute]
  have hresolve : ∀ here, resolve d.root last linkLimit here (parts ("./" ++ name)) =
      resolve d.root last linkLimit here (parts name) := fun here =>
    resolve_respelled _ ⟨["."], [], parts name, by simp [hparts], by decide, parts_here name, rfl⟩
      here
  simp only [find, hnul, habsolute, Path.isAbsolute_name hslash, hempty.1, hempty', hresolve]
  by_cases hlong : 255 < name.utf8ByteSize
  · -- Too long a name is refused, also where the path itself is not too long.
    have hfail : ∀ here, resolve d.root last linkLimit here (parts name) = .error .nameTooLong :=
      fun here => by
        have hsay : isBlank name = false := by simp [isBlank, hempty]
        rw [hparts, linkLimit, resolve, follow, hsay, if_neg Bool.false_ne_true, if_neg hup,
          if_pos hlong]
    simp only [hfail, ite_self]
  · have hshort : (⟨name⟩ : Path).isShort := by
      rw [Path.isShort, Path.sizeLimit, decide_eq_true_iff]
      exact (Nat.not_lt.1 hlong).trans_lt (by decide)
    have hshort' : (⟨"./" ++ name⟩ : Path).isShort := by
      have hdot : "./".utf8ByteSize = 2 := rfl
      rw [Path.isShort, Path.sizeLimit, decide_eq_true_iff, String.utf8ByteSize_append, hdot]
      omega
    simp only [hshort, hshort']

theorem readText_here (hname : Path.AreEntries [name]) (d : Disk) :
    d.readText ⟨"./" ++ name⟩ = d.readText ⟨name⟩ := by
  rw [readText, readText, stat, stat, find_here hname]

/-- No walk starts from the empty path. -/
theorem entries_empty (d : Disk) (keep : String → Bool) :
    d.entries keep ⟨""⟩ = .error ⟨⟨""⟩, .notFound⟩ := rfl

end Disk

/-! ### Two spellings of one project -/

/-- The path of a project file only counts in what is said of a flaw. -/
theorem ProjectFile.ofText_eq_ok_iff {path : Path} {text : String} {f : ProjectFile} :
    ofText path text = .ok f ↔
      ∃ v, Json.read? text = .ok v ∧ decode (v.getD (.object [])) = .ok f := by
  rw [ofText]
  cases Json.read? text with
  | error flaw => simp
  | ok v => simp [mapError_eq_ok_iff]

namespace Project

variable {d : Disk} {path : Path} {f : ProjectFile} {project : Project}
  {members : List (Path × String)}

theorem baseDir_bare (hname : Path.AreEntries [name]) : baseDir ⟨name⟩ = ⟨""⟩ := by
  have hparent := Path.components_parent? ⟨name⟩
  rw [hname.components_mk, if_neg (by simp)] at hparent
  obtain ⟨base, hbase, hcomponents⟩ := Option.map_eq_some_iff.1 hparent
  rw [baseDir, hbase, Option.getD_some]
  exact Path.components_eq_nil_iff.1 hcomponents

theorem components_baseDir_here (hname : Path.AreEntries [name]) :
    (baseDir ⟨"./" ++ name⟩).components = [.here] := by
  have hpath : (⟨"./" ++ name⟩ : Path).components = [.here, .name name] := by
    have hdot : (⟨"."⟩ : Path).components = [.here] := by decide
    rw [← hname.here_join]
    exact (Path.components_descend hname ⟨"."⟩).trans (by rw [hdot]; rfl)
  have hparent := Path.components_parent? ⟨"./" ++ name⟩
  rw [hpath, if_neg (by simp)] at hparent
  obtain ⟨base, hbase, hcomponents⟩ := Option.map_eq_some_iff.1 hparent
  rw [baseDir, hbase, Option.getD_some]
  exact hcomponents

theorem listed_here (hname : Path.AreEntries [name]) (f : ProjectFile) :
    listed f (baseDir ⟨"./" ++ name⟩) = listed f (baseDir ⟨name⟩) := by
  rw [listed, listed, baseDir_bare hname]
  simp only [Path.normalize_join_of_here (components_baseDir_here hname), Path.empty_join]

/-- A project file asks for members by name only. -/
def NamesOnly (d : Disk) (path : Path) : Prop :=
  ∃ text f, d.readText path = .ok text ∧ ProjectFile.ofText path text = .ok f ∧
    f.effectiveIncludes = []

theorem matched_of_namesOnly (hf : f.effectiveIncludes = []) (named : List Path) :
    (matched d path f named).result = .ok [] :=
  matched_eq_ok_iff.2 (.inl ⟨hf, rfl⟩)

/-- Below the empty path, globs find nothing, and fail if there are any. -/
theorem matched_bare_eq_ok_iff (hname : Path.AreEntries [name]) {named found : List Path} :
    (matched d ⟨name⟩ f named).result = .ok found ↔ f.effectiveIncludes = [] ∧ found = [] := by
  rw [matched_eq_ok_iff, baseDir_bare hname]
  refine or_iff_left ?_
  rintro ⟨-, includes, excludes, entries, -, -, hentries, -⟩
  cases (Disk.entries_empty d _).symm.trans hentries

theorem load_eq_error {text : String} {e : LintError} (htext : d.readText path = .ok text)
    (hf : ProjectFile.ofText path text = .ok f)
    (h : (matched d path f (listed f (baseDir path))).result = .error e) :
    (load d path).result = .error e := by
  simp [load, Traced.ofExcept, htext, hf, h, Except.mapError, bind]

/-- Under its bare name, a project file is loaded like under its path in the current folder, as long
    as it asks for members by name only. -/
theorem load_bare_eq_ok_iff (hname : Path.AreEntries [name]) :
    (load d ⟨name⟩).result = .ok ⟨⟨name⟩, members⟩ ↔ NamesOnly d ⟨name⟩ ∧
      (load d ⟨"./" ++ name⟩).result = .ok ⟨⟨"./" ++ name⟩, members⟩ := by
  simp only [load_eq_ok_iff, matched_bare_eq_ok_iff hname, listed_here hname,
    Disk.readText_here hname, ProjectFile.ofText_eq_ok_iff, NamesOnly, Project.mk.injEq, true_and]
  constructor
  · rintro ⟨text, f, _, named, found, htext, hf, ⟨honly, rfl⟩, hnamed, hfound, rfl⟩
    exact ⟨⟨text, f, htext, hf, honly⟩, text, f, [], named, found, htext, hf,
      matched_of_namesOnly honly _, hnamed, hfound, rfl⟩
  · rintro ⟨⟨text, f, htext, ⟨v, hv, hf⟩, honly⟩, text', f', found, named, more, htext',
      ⟨v', hv', hf'⟩, hmatched, hnamed, hfound, rfl⟩
    obtain rfl := Except.ok.inj (htext.symm.trans htext')
    obtain rfl := Except.ok.inj (hv.symm.trans hv')
    obtain rfl := Except.ok.inj (hf.symm.trans hf')
    obtain rfl := Except.ok.inj ((matched_of_namesOnly honly _).symm.trans hmatched)
    exact ⟨text, f, [], named, more, htext, ⟨v, hv, hf⟩, ⟨honly, rfl⟩, hnamed, hfound, rfl⟩

/-- The two spellings of the path of a project file come to the same, to equal members with equal
    texts or to nothing, exactly if members are asked for by name only wherever there is a project
    under the longer one. -/
theorem load_bare_alike_iff (hname : Path.AreEntries [name]) (d : Disk) :
    (∀ members, (load d ⟨name⟩).result = .ok ⟨⟨name⟩, members⟩ ↔
        (load d ⟨"./" ++ name⟩).result = .ok ⟨⟨"./" ++ name⟩, members⟩) ↔
      ((∃ project, (load d ⟨"./" ++ name⟩).result = .ok project) → NamesOnly d ⟨name⟩) := by
  simp only [load_bare_eq_ok_iff hname, and_iff_right_iff_imp]
  constructor
  · rintro hall ⟨project, hproject⟩
    obtain ⟨text, f, found, named, more, -, -, -, -, -, rfl⟩ := load_eq_ok_iff.1 hproject
    exact hall _ hproject
  · exact fun h members hmembers => h ⟨_, hmembers⟩

/-! ### A project with one source -/

/-- A folder with a source and a project file. -/
def oneSource (file : String) : Disk :=
  ⟨.folder [("a.ts", .file (.text "a")), ("project.json", .file (.text file))], [], none⟩

/-- The source is named. -/
theorem namesOnly_oneSource :
    NamesOnly (oneSource "\x7b\"files\": [\"a.ts\"]\x7d") ⟨"project.json"⟩ :=
  ⟨_, { files := some ["a.ts"] }, rfl, by cbv, rfl⟩

theorem load_bare_alike_oneSource : Path.AreEntries ["project.json"] ∧
    ∀ members, (load (oneSource "\x7b\"files\": [\"a.ts\"]\x7d") ⟨"project.json"⟩).result =
        .ok ⟨⟨"project.json"⟩, members⟩ ↔
      (load (oneSource "\x7b\"files\": [\"a.ts\"]\x7d") ⟨"./" ++ "project.json"⟩).result =
        .ok ⟨⟨"./" ++ "project.json"⟩, members⟩ :=
  ⟨by decide, (load_bare_alike_iff (by decide) _).2 fun _ => namesOnly_oneSource⟩

/-- The source is found by globs in the current folder. -/
theorem load_oneSource : (load (oneSource "\x7b\x7d") ⟨"./project.json"⟩).result =
    .ok ⟨⟨"./project.json"⟩, [(⟨"a.ts"⟩, "a")]⟩ := by
  have hentries : (oneSource "\x7b\x7d").entries (fun name => !isHidden name) ⟨"."⟩ = .ok
      [⟨⟨"."⟩, (oneSource "\x7b\x7d").root⟩, ⟨⟨"./a.ts"⟩, .file (.text "a")⟩,
        ⟨⟨"./project.json"⟩, .file (.text "\x7b\x7d")⟩] := rfl
  have hfile : ProjectFile.ofText ⟨"./project.json"⟩ "\x7b\x7d" = .ok {} := by cbv
  have hbase : baseDir ⟨"./project.json"⟩ = ⟨"."⟩ := by decide
  refine load_eq_ok_iff.2 ⟨_, _, [⟨"a.ts"⟩], [], [(⟨"a.ts"⟩, "a")], rfl, hfile, ?_, rfl, rfl, rfl⟩
  rw [matched_eq_ok_iff, hbase]
  refine .inr ⟨by decide, _, _, _, globs_default.1, globs_default.2, hentries, ?_⟩
  refine (List.mergeSort_singleton (⟨"a.ts"⟩ : Path)).symm.trans (congrArg sorted ?_)
  refine Eq.trans (b := [⟨"a.ts"⟩].filter _) ?_ (congrArg _ ?_)
  · rfl
  · cbv

/-- Under its bare name, the project cannot be loaded. -/
theorem load_bare_fails :
    (load (oneSource "\x7b\x7d") ⟨"./project.json"⟩).result =
        .ok ⟨⟨"./project.json"⟩, [(⟨"a.ts"⟩, "a")]⟩ ∧
      (load (oneSource "\x7b\x7d") ⟨"project.json"⟩).result = .error (.walk ⟨⟨""⟩, .notFound⟩) := by
  refine ⟨load_oneSource, ?_⟩
  have hread : (oneSource "\x7b\x7d").readText ⟨"project.json"⟩ = .ok "\x7b\x7d" := rfl
  have hfile : ProjectFile.ofText ⟨"project.json"⟩ "\x7b\x7d" = .ok {} := by cbv
  have hbase : baseDir ⟨"project.json"⟩ = ⟨""⟩ := by decide
  have hmatched : ∀ named, (matched (oneSource "\x7b\x7d") ⟨"project.json"⟩ {} named).result =
      .error (.walk ⟨⟨""⟩, .notFound⟩) := fun named => by
    have hincludes : ProjectFile.effectiveIncludes {} = ["**/*"] := rfl
    have hexcludes : ProjectFile.effectiveExcludes {} = ["**/node_modules/**"] := rfl
    rw [matched, hbase, hincludes, hexcludes, globs_default.1, globs_default.2]
    rfl
  exact load_eq_error hread hfile (hmatched _)

end Project

end Autofix
