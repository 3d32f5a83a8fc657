import Autofix.Proofs.Config.Extending
import Autofix.Proofs.Config.Source
import Autofix.Proofs.Glob
import Autofix.Proofs.Path.Below

/-!
# What a configuration leaves out

The globs of a configuration are matched against paths as they are seen from one folder, the one of
the file that was loaded, in the spelling in which it was found.

* `excludes_below`: a file below that folder is matched under its path from there exactly if its path
  starts with the folder as it is written;
* `exists_parent_excludes`: globs that come from an extended file in the same folder leave out what
  they leave out there; from any other folder, some do not.
-/

namespace Autofix

/-- Where a path leads to, as its text tells. -/
def Disk.located (d : Disk) (p : Path) : Path := (d.currentPath.join p).normalize

/-- As their texts tell, the names lead from the folder `dir` down to `f`. -/
def Disk.Below (d : Disk) (dir f : Path) (names : List (List Char)) : Prop :=
  names ≠ [] ∧ (d.located f).components =
    (d.located dir).components ++ names.map fun name => .name (String.ofList name)

/-- Two paths that differ are told apart by a glob that can be read. -/
theorem Glob.exists_selects_not {p q : Path} (h : p ≠ q) : ∃ text g, ofText? false text = .ok g ∧
    setFlaw? [g] = none ∧ g.selects p = true ∧ g.selects q = false := by
  refine ⟨_, _, ofText?_escaped p.text.toList, setFlaw?_literal _, selects_literal_iff.2 rfl, ?_⟩
  rw [Bool.eq_false_iff, ne_eq, selects_literal_iff]
  intro heq
  cases p
  cases q
  exact h (by rw [Path.mk.injEq]; exact (String.toList_inj.1 heq).symm)

namespace LintConfig

variable {d : Disk} {p q : Path} {c : LintConfig}

/-- The configuration with other globs in place of its own. -/
def withExclude (c : LintConfig) (gs : List Glob) : LintConfig := { c with exclude := gs }

theorem excludes_eq {dir : Path} (h : c.baseDir = some dir) (f : Path) :
    c.excludes f = Glob.anySelects c.exclude (f.seenFrom dir) := by
  simp only [excludes, h, Option.bind_some, Path.seenFrom]

theorem excludes_withExclude {dir : Path} (h : c.baseDir = some dir) (gs : List Glob) (f : Path) :
    (c.withExclude gs).excludes f = Glob.anySelects gs (f.seenFrom dir) :=
  excludes_eq (c := c.withExclude gs) h f

/-! ### A configuration that extends one in another folder -/

/-- A disk with a configuration at the top and the one that it extends in a folder. -/
def twoFolders : Disk where
  root := .folder [("lintfix.json", .file (.text "\x7b\"extends\": \"shared/base.json\"\x7d")),
    ("shared", .folder [("base.json", .file (.text "\x7b\"exclude\": [\"gen/*\"]\x7d"))])]
  current := []
  home := none

/-- The glob `gen/*`. -/
def belowGen : Glob := ⟨"gen/*", "gen/".toList.map .literal ++ [.star], false⟩

/-- The configuration at the top of `twoFolders` extends the other one, which has the only glob. -/
theorem ofFile_twoFolders {p q : Path} (hq : p.folder.join ⟨"shared/base.json"⟩ = q)
    (hread : twoFolders.readText p = .ok "\x7b\"extends\": \"shared/base.json\"\x7d")
    (hparent : twoFolders.readText q = .ok "\x7b\"exclude\": [\"gen/*\"]\x7d")
    (hne : q.normalize ≠ p.normalize) :
    Extends twoFolders p q ∧
      (ofFile twoFolders p).result = .ok { exclude := [belowGen], baseDir := some p.folder } ∧
      (ofFile twoFolders q).result = .ok { exclude := [belowGen], baseDir := some q.folder } := by
  have htop : ofText "\x7b\"extends\": \"shared/base.json\"\x7d" =
      .ok { extending := some (.one "shared/base.json") } := by cbv
  have hbase : ofText "\x7b\"exclude\": [\"gen/*\"]\x7d" = .ok { exclude := [belowGen] } := by
    cbv
  have hown := readOwn_eq_ok_iff.2 ⟨_, hread, htop⟩
  have hown' := readOwn_eq_ok_iff.2 ⟨_, hparent, hbase⟩
  have hloads : Loads twoFolders [p.normalize] q (inheriting { exclude := [belowGen] } q []) :=
    .leaf (by simpa using hne) hown' rfl
  subst hq
  have hall : Loads twoFolders [] p (inheriting { extending := some (.one "shared/base.json") } p
      [inheriting { exclude := [belowGen] } _ []]) :=
    .of List.not_mem_nil hown rfl (fun x hx => List.mem_singleton.1 hx ▸ hloads) rfl
  exact ⟨⟨_, hown, List.mem_cons_self⟩, ofFile_eq_ok_iff.2 hall,
    ofFile_eq_ok_iff.2 (hloads.mono (List.nil_subset _))⟩

/-! ### Files below the folder of a configuration -/

/-- A file that lies below the folder of a configuration is matched under its path from there if it
    is written as the folder, in a spelling that says the same, with the names behind it; or if it is
    written without any folder, and does not start with this one. Else some globs do not leave out
    what they are to leave out, or the other way round. -/
theorem excludes_below {source : ConfigSource} {f : Path} {names : List (List Char)}
    (hfile : source.file? d = some p) (hload : (Ruleset.read d source).result = .ok c)
    (hbelow : d.Below p.folder f names) :
    let seen := p.folder.WrittenBelow f names ∨
      f = Path.ofNames names ∧ ¬p.folder.components <+: f.components
    (seen → ∀ gs, (c.withExclude gs).excludes f = Glob.anySelects gs (Path.ofNames names)) ∧
      (¬seen → ∃ texts gs, globs texts = .ok gs ∧
        (c.withExclude gs).excludes f ≠ Glob.anySelects gs (Path.ofNames names)) := by
  obtain ⟨hne, hlocated⟩ := hbelow
  have hnames : Path.AreNames names := Path.areNames_of_forall fun name hname =>
    hlocated ▸ List.mem_append_right _ (List.mem_map_of_mem hname)
  have hc := ofFile_eq_ok_iff.1 ((Ruleset.read_eq_ok_iff hfile).1 hload)
  intro seen
  have hseen : f.seenFrom p.folder = Path.ofNames names ↔ seen :=
    Path.seenFrom_eq_ofNames_iff hnames hne
  rw [← hseen]
  refine ⟨fun heq gs => ?_, fun hother => ?_⟩
  · rw [excludes_withExclude hc.baseDir, heq]
  · -- A glob that selects the path as it is seen, but not the names.
    obtain ⟨text, g, htext, hset, hselects, hnot⟩ := Glob.exists_selects_not hother
    refine ⟨[text], [g], globs_singleton htext hset, ?_⟩
    simp [excludes_withExclude hc.baseDir, Glob.anySelects, hselects, hnot]

theorem file?_twoFolders :
    (ConfigSource.file ⟨"../lintfix.json"⟩ ⟨"/shared"⟩).file? twoFolders =
      some ⟨"/shared/../lintfix.json"⟩ := by
  have hjoin : (⟨"/shared"⟩ : Path).join ⟨"../lintfix.json"⟩ = ⟨"/shared/../lintfix.json"⟩ := by
    decide
  have hfile : twoFolders.isFile ⟨"/shared/../lintfix.json"⟩ = true := rfl
  simp only [ConfigSource.file?, hjoin, hfile, if_true]

/-- A file whose path starts with the folder as it is written. -/
theorem excludes_below_twoFolders : ∃ c,
    (Ruleset.read twoFolders (.file ⟨"../lintfix.json"⟩ ⟨"/shared"⟩)).result = .ok c ∧
    twoFolders.Below (Path.folder ⟨"/shared/../lintfix.json"⟩) ⟨"/shared/../gen/a.ts"⟩
      ["gen".toList, "a.ts".toList] ∧
    ∀ gs, (c.withExclude gs).excludes ⟨"/shared/../gen/a.ts"⟩ =
      Glob.anySelects gs (Path.ofNames ["gen".toList, "a.ts".toList]) := by
  obtain ⟨-, hload, -⟩ := ofFile_twoFolders (p := ⟨"/shared/../lintfix.json"⟩)
    (q := ⟨"/shared/../shared/base.json"⟩) (by decide) rfl rfl (by decide)
  have hread := (Ruleset.read_eq_ok_iff file?_twoFolders).2 hload
  have hbelow : twoFolders.Below (Path.folder ⟨"/shared/../lintfix.json"⟩)
      ⟨"/shared/../gen/a.ts"⟩ ["gen".toList, "a.ts".toList] := ⟨by simp, by decide⟩
  refine ⟨_, hread, hbelow, (excludes_below file?_twoFolders hread hbelow).1 (.inl ?_)⟩
  exact ⟨⟨"/shared/.."⟩, [], by decide, rfl, by decide⟩

/-- A file that lies below the folder of a configuration, and that its globs are to leave out, is
    not left out if the path of the configuration goes down and up again. -/
theorem not_excluded_below_respelled : ∃ c,
    (Ruleset.read twoFolders (.file ⟨"../lintfix.json"⟩ ⟨"/shared"⟩)).result = .ok c ∧
    twoFolders.Below (Path.folder ⟨"/shared/../lintfix.json"⟩) ⟨"/gen/a.ts"⟩
      ["gen".toList, "a.ts".toList] ∧
    Glob.anySelects c.exclude (Path.ofNames ["gen".toList, "a.ts".toList]) = true ∧
    c.excludes ⟨"/gen/a.ts"⟩ = false := by
  obtain ⟨-, hload, -⟩ := ofFile_twoFolders (p := ⟨"/shared/../lintfix.json"⟩)
    (q := ⟨"/shared/../shared/base.json"⟩) (by decide) rfl rfl (by decide)
  refine ⟨_, (Ruleset.read_eq_ok_iff file?_twoFolders).2 hload, ⟨by simp, by decide⟩, ?_, ?_⟩
  · cbv
  · have hfolder : (⟨"/shared/../lintfix.json"⟩ : Path).folder = ⟨"/shared/.."⟩ := by decide
    have hseen : (⟨"/gen/a.ts"⟩ : Path).seenFrom ⟨"/shared/.."⟩ = ⟨"/gen/a.ts"⟩ := by decide
    rw [hfolder, excludes_eq rfl, hseen]
    cbv

/-! ### Globs that come from an extended file -/

/-- What is extended can be loaded on its own. From the same folder, it leaves nothing out that the
    extending configuration does not leave out, too. From any other folder, some globs in its place
    leave out some file that they do not leave out in the extending configuration. -/
theorem exists_parent_excludes (hload : (ofFile d p).result = .ok c)
    (hq : Relation.TransGen (Extends d) p q) :
    ∃ parent, (ofFile d q).result = .ok parent ∧
      (q.folder.same p.folder → ∀ f, parent.excludes f → c.excludes f) ∧
      (¬q.folder.same p.folder → ∃ texts gs f, globs texts = .ok gs ∧
        (parent.withExclude gs).excludes f = true ∧ (c.withExclude gs).excludes f = false) := by
  have hc := ofFile_eq_ok_iff.1 hload
  obtain ⟨met, parent, -, hparent, hglobs⟩ := hc.of_reaches hq.to_reflTransGen
  refine ⟨parent, ofFile_eq_ok_iff.2 (hparent.mono (List.nil_subset met)), ?_, ?_⟩
  · -- The globs of the parent are among those that come out, and the path is seen as it was.
    intro hsame f hf
    rw [excludes_eq hparent.baseDir, Path.seenFrom_congr hsame, Glob.anySelects,
      List.any_eq_true] at hf
    obtain ⟨g, hg, hselects⟩ := hf
    rw [excludes_eq hc.baseDir, Glob.anySelects, List.any_eq_true]
    exact ⟨g, hglobs hg, hselects⟩
  · intro hother
    -- A file that is seen differently, and a glob that selects only what the parent sees.
    obtain ⟨f, hf⟩ := Path.exists_seenFrom_ne hother
    obtain ⟨text, g, htext, hset, hselects, hnot⟩ := Glob.exists_selects_not hf
    refine ⟨[text], [g], f, globs_singleton htext hset, ?_, ?_⟩
    · simpa [excludes_withExclude hparent.baseDir, Glob.anySelects] using hselects
    · simpa [excludes_withExclude hc.baseDir, Glob.anySelects] using hnot

theorem exists_parent_excludes_twoFolders :
    (Relation.TransGen (Extends twoFolders) ⟨"/lintfix.json"⟩ ⟨"/shared/base.json"⟩ ∧
      (ofFile twoFolders ⟨"/lintfix.json"⟩).result =
        .ok { exclude := [belowGen], baseDir := some ⟨"/"⟩ }) ∧
    ∃ parent, (ofFile twoFolders ⟨"/shared/base.json"⟩).result = .ok parent ∧
      ((⟨"/shared"⟩ : Path).same ⟨"/"⟩ → ∀ f, parent.excludes f →
        LintConfig.excludes { exclude := [belowGen], baseDir := some ⟨"/"⟩ } f) ∧
      (¬(⟨"/shared"⟩ : Path).same ⟨"/"⟩ → ∃ texts gs f, globs texts = .ok gs ∧
        (parent.withExclude gs).excludes f = true ∧
        (LintConfig.withExclude { exclude := [belowGen], baseDir := some ⟨"/"⟩ } gs).excludes f =
          false) := by
  have hfolder : (⟨"/lintfix.json"⟩ : Path).folder = ⟨"/"⟩ := by decide
  have hparent : (⟨"/shared/base.json"⟩ : Path).folder = ⟨"/shared"⟩ := by decide
  obtain ⟨hext, hload, -⟩ := ofFile_twoFolders (p := ⟨"/lintfix.json"⟩)
    (q := ⟨"/shared/base.json"⟩) (by decide) rfl rfl (by decide)
  rw [hfolder] at hload
  have hmain := exists_parent_excludes hload (.single hext)
  rw [hfolder, hparent] at hmain
  exact ⟨⟨.single hext, hload⟩, hmain⟩

/-- The parent leaves a file out that lies below its own folder. The configuration that extends it
    does not. -/
theorem not_excluded_by_extending : ∃ c parent,
    (ofFile twoFolders ⟨"/lintfix.json"⟩).result = .ok c ∧
    Extends twoFolders ⟨"/lintfix.json"⟩ ⟨"/shared/base.json"⟩ ∧
    (ofFile twoFolders ⟨"/shared/base.json"⟩).result = .ok parent ∧
    parent.excludes ⟨"/shared/gen/a.ts"⟩ = true ∧ c.excludes ⟨"/shared/gen/a.ts"⟩ = false := by
  have hfolder : (⟨"/lintfix.json"⟩ : Path).folder = ⟨"/"⟩ := by decide
  have hparent : (⟨"/shared/base.json"⟩ : Path).folder = ⟨"/shared"⟩ := by decide
  obtain ⟨hext, hload, hload'⟩ := ofFile_twoFolders (p := ⟨"/lintfix.json"⟩)
    (q := ⟨"/shared/base.json"⟩) (by decide) rfl rfl (by decide)
  refine ⟨_, _, hload, hext, hload', ?_, ?_⟩
  · have hseen : (⟨"/shared/gen/a.ts"⟩ : Path).seenFrom ⟨"/shared"⟩ = ⟨"gen/a.ts"⟩ := by decide
    rw [hparent, excludes_eq rfl, hseen]
    cbv
  · have hseen : (⟨"/shared/gen/a.ts"⟩ : Path).seenFrom ⟨"/"⟩ = ⟨"shared/gen/a.ts"⟩ := by decide
    rw [hfolder, excludes_eq rfl, hseen]
    cbv

end LintConfig

end Autofix
