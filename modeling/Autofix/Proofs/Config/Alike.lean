import Autofix.Proofs.Config.Finding
import Autofix.Proofs.Config.Reloading
import Autofix.Proofs.Path.Below

/-!
# Rules that come to the same

Configurations that differ in nothing but the spelling of their folder are alike: the same files are
left out under them, and the same rules run (`RuleEngine.lint_alike`). Files in the same folder come
to rules that are alike, also when files have been written in between that no configuration is read
from (`Ruleset.exists_load_alike`).
-/

namespace Autofix

/-- Two configurations differ in nothing but the spelling of their folder. -/
structure LintConfig.Alike (c c' : LintConfig) : Prop where
  rest_eq : { c with baseDir := none } = { c' with baseDir := none }
  components_eq : c.baseDir.map Path.components = c'.baseDir.map Path.components

/-- The same rules run, under configurations that are alike. -/
structure Ruleset.Alike (c c' : Ruleset) : Prop where
  config : c.config.Alike c'.config
  active_eq : c.active = c'.active

namespace LintConfig.Alike

variable {c c' : LintConfig}

theorem refl (c : LintConfig) : Alike c c := ⟨rfl, rfl⟩

theorem symm (h : Alike c c') : Alike c' c := ⟨h.rest_eq.symm, h.components_eq.symm⟩

theorem trans {c'' : LintConfig} (h : Alike c c') (h' : Alike c' c'') : Alike c c'' :=
  ⟨h.rest_eq.trans h'.rest_eq, h.components_eq.trans h'.components_eq⟩

theorem inFolder {dir dir' : Path} (hdir : c.baseDir = some dir)
    (h : dir.components = dir'.components) : Alike c (c.inFolder dir') :=
  ⟨rfl, by rw [hdir]; exact congrArg some h⟩

theorem rulesOn_eq (h : Alike c c') : c.rulesOn = c'.rulesOn := by
  rw [rulesOn, rulesOn, (LintConfig.mk.inj h.rest_eq).2.2.1]

/-- The same files are left out. -/
theorem excludes_eq (h : Alike c c') (path : Path) : c.excludes path = c'.excludes path := by
  have hexclude := (LintConfig.mk.inj h.rest_eq).2.2.2.1
  have hseen : (c.baseDir.bind path.stripBase?).getD path =
      (c'.baseDir.bind path.stripBase?).getD path := by
    have hdirs := h.components_eq
    cases hdir : c.baseDir with
    | none =>
      rw [hdir, Option.map_none, eq_comm, Option.map_eq_none_iff] at hdirs
      rw [hdirs]
    | some dir =>
      rw [hdir, Option.map_some, eq_comm, Option.map_eq_some_iff] at hdirs
      obtain ⟨dir', hdir', hcomponents⟩ := hdirs
      rw [hdir', Option.bind_some, Option.bind_some, Path.stripBase?_congr hcomponents]
  rw [excludes, excludes, hexclude, hseen]

end LintConfig.Alike

namespace Ruleset

variable {c c' : Ruleset} {registry : Registry}

theorem Alike.refl (c : Ruleset) : Alike c c := ⟨.refl _, rfl⟩

theorem Alike.symm (h : Alike c c') : Alike c' c := ⟨h.config.symm, h.active_eq.symm⟩

theorem Alike.trans {c'' : Ruleset} (h : Alike c c') (h' : Alike c' c'') : Alike c c'' :=
  ⟨h.config.trans h'.config, h.active_eq.trans h'.active_eq⟩

theorem Alike.check_eq (h : Alike c c') (registry : Registry) (path : Path) (content : String) :
    c.check registry path content = c'.check registry path content := by
  rw [check, check, h.active_eq]

theorem ofConfig_eq_ok_iff {config : LintConfig} : (ofConfig registry config).result = .ok c ↔
    c.config = config ∧ (pick registry config.rulesOn).result = .ok c.active := by
  simp only [ofConfig, Traced.bind_result, bind_eq_ok_iff, Traced.pure_result, Traced.note_result,
    Except.ok.injEq]
  constructor
  · rintro ⟨active, hactive, _, -, rfl⟩
    exact ⟨rfl, hactive⟩
  · rintro ⟨rfl, hactive⟩
    exact ⟨c.active, hactive, (), trivial, rfl⟩

end Ruleset

/-- Linting comes to the same under rules that are alike. -/
theorem RuleEngine.lint_alike {c c' : Ruleset} (h : c.Alike c') (path : Path) (content : String) :
    lint path content c = lint path content c' := by
  simp only [lint, lintText, h.config.excludes_eq, h.check_eq]

/-! ### Sources of files in the same folder -/

namespace ConfigSource

/-- All paths that are looked up on the way to the configuration near a file are short: those at
    which it may be, and those of what it extends. -/
def LooksShort (d : Disk) : ConfigSource → Prop
  | .nearest p => (∀ q ∈ LintConfig.candidates p.folder, q.isShort) ∧
      ∀ q, LintConfig.findNearest d p = some q → ∀ r, LintConfig.Reaches d q r → r.isShort
  | _ => True

/-- Two sources are the same, or those of two files in one folder, which is written in the same way
    for both unless all paths that are looked up are short. -/
def Together (d : Disk) (source source' : ConfigSource) : Prop :=
  source = source' ∨ ∃ p p', source = .nearest p ∧ source' = .nearest p' ∧
    d.isFile p ∧ d.isFile p' ∧ p.folder.components = p'.folder.components ∧
    (p.folder = p'.folder ∨ source.LooksShort d ∧ source'.LooksShort d)

/-- Two paths say the same, and lead to the same configuration. -/
def LeadAlike (d : Disk) (p p' : Path) : Prop :=
  p.Respells p' ∧ (p = p' ∨ ∀ q, LintConfig.Reaches d p' q → q.isShort)

variable {d : Disk} {source source' : ConfigSource}

theorem LeadAlike.refl (d : Disk) (p : Path) : LeadAlike d p p := ⟨.refl p, .inl rfl⟩

/-- Such sources lead to paths that say the same. -/
theorem Together.leadAlike (h : Together d source source') :
    Option.Rel (LeadAlike d) (source.file? d) (source'.file? d) := by
  have hrefl : ∀ found : Option Path, Option.Rel (LeadAlike d) found found := by
    rintro (_ | p)
    · exact .none
    · exact .some (.refl d p)
  rcases h with rfl | ⟨p, p', rfl, rfl, hfile, hfile', hdir, hdirs | ⟨hshort, hshort'⟩⟩
  · exact hrefl _
  · rw [file?, file?, LintConfig.findNearest_eq hfile, LintConfig.findNearest_eq hfile', hdirs]
    exact hrefl _
  · -- The same candidate is found for both; the one at home is the same path for both.
    have hfirst := LintConfig.find?_isFile_respells (LintConfig.forall₂_candidates hdir)
      hshort.1 hshort'.1 d
    have hreaches := hshort'.2
    rw [LintConfig.findNearest_eq hfile'] at hreaches
    rw [file?, file?, LintConfig.findNearest_eq hfile, LintConfig.findNearest_eq hfile']
    generalize (LintConfig.candidates p.folder).find? d.isFile = found at hfirst ⊢
    generalize (LintConfig.candidates p'.folder).find? d.isFile = found' at hfirst hreaches ⊢
    cases hfirst with
    | none => exact hrefl _
    | some hrespells => exact .some ⟨hrespells, .inr (hreaches _ rfl)⟩

end ConfigSource

/-! ### Loading again -/

namespace Ruleset

variable {registry : Registry} {d d₁ d₂ : Disk} {places : Disk.Place → Prop}
  {source source' : ConfigSource} {p : Path} {c : Ruleset} {config : LintConfig}

/-- Where a source leads to no file, only a linted file has a configuration, the empty one. -/
theorem read_eq_ok_iff_of_none (h : source.file? d = none) :
    (read d source).result = .ok config ↔ (∃ p, source = .nearest p) ∧ config = {} := by
  cases source with
  | file path root =>
    have hfile : d.isFile (root.join path) = false := by simpa [ConfigSource.file?] using h
    simp [read, hfile]
  | search path => simp [read, show LintConfig.findAt d path = none from h]
  | nearest path =>
    have hnone : LintConfig.findNearest d path = none := h
    simp [read, hnone, bind, eq_comm]

/-- The rules of a configuration that extends no other one. -/
theorem load_of_own {own : LintConfig} (hfound : source.file? d = some p)
    (hown : LintConfig.readOwn d p = .ok own) (hparents : own.parents p = [])
    (hconfig : c.config = own.inheriting p [])
    (hactive : (pick registry c.config.rulesOn).result = .ok c.active) :
    (load registry d source).result = .ok c := by
  have hloads : LintConfig.Loads d [] p c.config :=
    hconfig ▸ .leaf List.not_mem_nil hown hparents
  rw [load, Traced.bind_result, bind_eq_ok_iff]
  exact ⟨_, (read_eq_ok_iff hfound).2 (LintConfig.ofFile_eq_ok_iff.2 hloads),
    ofConfig_eq_ok_iff.2 ⟨rfl, hactive⟩⟩

/-- What has been read from a source is read again from one that goes together with it, although
    files have been written in the meantime. -/
theorem exists_read_alike (h₁ : d.Rewrites places d₁) (h₂ : d.Rewrites places d₂)
    (hapart : ∀ p, source.file? d = some p → LintConfig.Apart d places [] p)
    (htogether : source.Together d source') (hread : (read d₁ source).result = .ok config) :
    ∃ config', (read d₂ source').result = .ok config' ∧ config.Alike config' := by
  have hlead := htogether.leadAlike
  rw [← source'.file?_eq h₂] at hlead
  cases hfound : source.file? d with
  | none =>
    rw [hfound] at hlead
    generalize hfound' : source'.file? d₂ = found' at hlead
    cases hlead
    obtain ⟨⟨q, rfl⟩, rfl⟩ := (read_eq_ok_iff_of_none (source.file?_eq h₁ ▸ hfound)).1 hread
    obtain ⟨q', rfl⟩ : ∃ q', source' = .nearest q' := by
      rcases htogether with rfl | ⟨-, q', -, rfl, -⟩ <;> exact ⟨_, rfl⟩
    exact ⟨{}, (read_eq_ok_iff_of_none hfound').2 ⟨⟨q', rfl⟩, rfl⟩, .refl _⟩
  | some p =>
    rw [hfound] at hlead
    generalize hfound' : source'.file? d₂ = found' at hlead
    cases hlead with
    | @some _ p' hp =>
    obtain ⟨hrespells, hshort⟩ := hp
    have hload₁ : LintConfig.Loads d₁ [] p config := LintConfig.ofFile_eq_ok_iff.1 <|
      (read_eq_ok_iff (source.file?_eq h₁ ▸ hfound)).1 hread
    -- What can be loaded after the first changes could be loaded before any, and so after others.
    have hload := hload₁.of_rewritten (hapart p hfound) h₁
    have hshort' : ∀ q, LintConfig.Reaches d p' q → q.isShort := by
      rcases hshort with rfl | hshort
      · exact fun q => hload.isShort_of_reaches
      · exact hshort
    refine ⟨config.inFolder p'.folder, (read_eq_ok_iff hfound').2 <|
      LintConfig.ofFile_eq_ok_iff.2 (hload.again (hapart p hfound) h₂ hrespells hshort'), ?_⟩
    refine .inFolder hload.baseDir ?_
    rw [Path.components_folder, Path.components_folder, hrespells.components_eq]

/-- What has been loaded from a source is loaded again from one that goes together with it, although
    files have been written in the meantime. -/
theorem exists_load_alike (h₁ : d.Rewrites places d₁) (h₂ : d.Rewrites places d₂)
    (hapart : ∀ p, source.file? d = some p → LintConfig.Apart d places [] p)
    (htogether : source.Together d source') (hload : (load registry d₁ source).result = .ok c) :
    ∃ c', (load registry d₂ source').result = .ok c' ∧ c.Alike c' := by
  simp only [load, Traced.bind_result, bind_eq_ok_iff, ofConfig_eq_ok_iff] at hload ⊢
  obtain ⟨config, hread, rfl, hactive⟩ := hload
  obtain ⟨config', hread', halike⟩ := exists_read_alike h₁ h₂ hapart htogether hread
  rw [halike.rulesOn_eq] at hactive
  exact ⟨⟨config', c.active⟩, ⟨config', hread', rfl, hactive⟩, halike, rfl⟩

end Ruleset

end Autofix
