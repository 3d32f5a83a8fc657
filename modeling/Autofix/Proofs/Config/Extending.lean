import Autofix.Proofs.Config.Allowed
import Autofix.Proofs.Glob.Set
import Mathlib

/-!
# Configurations that extend others

A configuration file extends others, which may extend further ones. Loading it follows all of these
ways, and refuses a way that comes to a file of the same normal form twice. It also refuses globs
that do not make up a set when they are put together.

* `loadFrom_result` is one step of loading, and `Loads` what it comes to when it succeeds, without
  any bound on the ways (`loadFrom_eq_ok_iff`);
* `Effective` folds the settings of a file out of those of the files that it extends;
* `ofFile_of_extends`: every way comes to an end, one on which a file extends itself makes loading
  fail, and if there is none and all files can be read, loading comes to the fold, as long as its
  globs make up a set.
-/

namespace Autofix.LintConfig

variable {d : Disk} {visiting met : List Path} {p q r : Path} {c own : LintConfig}

/-! ### What a file extends -/

/-- The files that a configuration extends, under the paths by which it names them in the file
    `p`. -/
def parents (own : LintConfig) (p : Path) : List Path :=
  (own.extending.elim [] OneOrMany.toList).map fun parent => p.folder.join ⟨parent⟩

/-- The file `p` extends the file `q`. -/
def Extends (d : Disk) (p q : Path) : Prop := ∃ own, readOwn d p = .ok own ∧ q ∈ own.parents p

/-- What is extended directly or through others, and the file itself. -/
abbrev Reaches (d : Disk) : Path → Path → Prop := Relation.ReflTransGen (Extends d)

/-- What a configuration says about rules and files. -/
@[ext]
structure Settings where
  rule : String → Option RuleSetting
  exclude : List Glob

/-- Nothing is said. -/
def Settings.empty : Settings := ⟨fun _ => none, []⟩

instance : Inhabited Settings := ⟨.empty⟩

/-- Settings with others on top, whose rules replace those of the same name. -/
def Settings.overriddenBy (s t : Settings) : Settings :=
  ⟨fun name => (t.rule name).or (s.rule name), s.exclude ++ t.exclude⟩

def settings (c : LintConfig) : Settings := ⟨Dictionary.get? c.rules, c.exclude⟩

/-- The settings that come of a file: those of each file that it extends, in their order, and its
    own on top of them. -/
inductive Effective (d : Disk) : Path → Settings → Prop
  | of {p : Path} {own : LintConfig} {inherited : List Settings} (hown : readOwn d p = .ok own)
      (hlength : inherited.length = (own.parents p).length)
      (hinherited : ∀ x ∈ (own.parents p).zip inherited, Effective d x.1 x.2) :
      Effective d p ((inherited.foldl Settings.overriddenBy .empty).overriddenBy own.settings)

/-! ### Loading -/

/-- What a configuration comes to with those that it extends. -/
def inheriting (own : LintConfig) (p : Path) (cs : List LintConfig) : LintConfig :=
  let all := (cs.foldl extendedBy {}).extendedBy own
  { own with extending := none, rules := all.rules, exclude := all.exclude, baseDir := p.folder }

/-- Loading a file on the way from those of `visiting` comes to a configuration. -/
inductive Loads (d : Disk) : List Path → Path → LintConfig → Prop
  | of {visiting : List Path} {p : Path} {own : LintConfig} {cs : List LintConfig}
      (hnew : p.normalize ∉ visiting) (hown : readOwn d p = .ok own)
      (hlength : cs.length = (own.parents p).length)
      (hcs : ∀ x ∈ (own.parents p).zip cs, Loads d (p.normalize :: visiting) x.1 x.2)
      (hset : Glob.setFlaw? (own.inheriting p cs).exclude = none) :
      Loads d visiting p (own.inheriting p cs)

/-! ### Loading step by step -/

theorem exists_mem_zip {α β : Type} {as : List α} {bs : List β} (h : bs.length = as.length)
    {a : α} (ha : a ∈ as) : ∃ b, (a, b) ∈ as.zip bs := by
  rw [← List.map_fst_zip h.ge, List.mem_map] at ha
  obtain ⟨⟨a, b⟩, hmem, rfl⟩ := ha
  exact ⟨b, hmem⟩

theorem getElem_mem_zip {α β : Type} {as : List α} {bs : List β} {i : ℕ} (h : i < as.length)
    (h' : i < bs.length) : (as[i], bs[i]) ∈ as.zip bs :=
  List.mem_iff_getElem.2 ⟨i, by rw [List.length_zip]; omega, List.getElem_zip⟩

/-- What is extended is loaded in order, and put together once all of it has been loaded. -/
theorem loadParents_result {load : Path → Traced Problem LintConfig} {dir : Path}
    {sofar : LintConfig} {texts : List String} :
    (loadParents load dir sofar texts).result =
      ((texts.map fun text => dir.join ⟨text⟩).mapM fun q => (load q).result).map
        fun cs => cs.foldl extendedBy sofar := by
  induction texts generalizing sofar with
  | nil => rfl
  | cons text texts ih =>
    rw [loadParents, Traced.bind_result, List.map_cons, List.mapM_cons]
    cases (load (dir.join ⟨text⟩)).result with
    | error e => rfl
    | ok b =>
      refine ih.trans ?_
      cases (texts.map fun text => dir.join ⟨text⟩).mapM fun q => (load q).result <;> rfl

theorem ascending_of_readOwn (h : readOwn d p = .ok own) : own.rules.Ascending := by
  obtain ⟨text, -, htext⟩ := readOwn_eq_ok_iff.1 h
  exact ascending_of_ofText htext

/-- Without parents the rules are kept as they are, which are in order already. -/
theorem inheriting_nil (h : own.rules.Ascending) (hextending : own.extending = none) :
    own.inheriting p [] = { own with baseDir := p.folder } := by
  simp only [inheriting, List.foldl_nil, extendedBy, List.nil_append]
  rw [show Dictionary.merge [] own.rules = own.rules from h.ofList_eq, ← hextending]

/-- One step of loading: a file that has not been met on the way and can be read is put together
    with all that it extends, if the globs then make up a set. -/
theorem loadFrom_result (hnew : p.normalize ∉ visiting) (hown : readOwn d p = .ok own) :
    (loadFrom d visiting p).result =
      (do
        let cs ← (own.parents p).mapM fun q => (loadFrom d (p.normalize :: visiting) q).result
        let _ ← (Glob.asSet (own.inheriting p cs).exclude).mapError .globSet
        return own.inheriting p cs) := by
  -- The globs of a set are those that it is made of.
  have hfinish : ∀ c : LintConfig, (do
      let exclude ← Traced.ofExcept ((Glob.asSet c.exclude).mapError Problem.globSet)
      Traced.note (.debug s!"Loaded lint configuration {p.text}")
      return { c with exclude, baseDir := some p.folder } : Traced Problem LintConfig).result = (do
      let _ ← (Glob.asSet c.exclude).mapError Problem.globSet
      return { c with baseDir := some p.folder }) := by
    intro c
    rw [Traced.bind_result, Traced.ofExcept_result, Glob.asSet]
    cases Glob.setFlaw? c.exclude <;> rfl
  rw [loadFrom, dif_neg hnew]
  split
  · rename_i e hfault
    rw [hown] at hfault
    cases hfault
  · rename_i own' hown'
    obtain rfl := Except.ok.inj (hown.symm.trans hown')
    cases hextending : own.extending with
    | none =>
      -- Nothing is inherited, and merging into nothing keeps the rules, as they are in order.
      have hparents : own.parents p = [] := by simp [parents, hextending]
      have hnil := inheriting_nil (p := p) (ascending_of_readOwn hown) hextending
      refine (hfinish own).trans ?_
      rw [hparents, ← hnil]
      rfl
    | some texts =>
      have hparents : own.parents p = texts.toList.map fun text => p.folder.join ⟨text⟩ := by
        simp [parents, hextending]
      rw [hparents]
      dsimp only
      rw [Traced.bind_result, loadParents_result]
      cases (texts.toList.map fun text => p.folder.join ⟨text⟩).mapM fun q =>
          (loadFrom d (p.normalize :: visiting) q).result with
      | error e => rfl
      | ok cs => exact hfinish _

theorem loadFrom_eq_ok_iff_step : (loadFrom d visiting p).result = .ok c ↔
    p.normalize ∉ visiting ∧ ∃ own, readOwn d p = .ok own ∧ ∃ cs : List LintConfig,
      cs.length = (own.parents p).length ∧
      (∀ x ∈ (own.parents p).zip cs,
        (loadFrom d (p.normalize :: visiting) x.1).result = .ok x.2) ∧
      Glob.setFlaw? (own.inheriting p cs).exclude = none ∧ c = own.inheriting p cs := by
  by_cases hmet : p.normalize ∈ visiting
  · rw [loadFrom, dif_pos hmet]
    simp [hmet]
  cases hown : readOwn d p with
  | error e =>
    rw [loadFrom, dif_neg hmet]
    split
    · simp
    · rename_i own hown'
      rw [hown] at hown'
      cases hown'
  | ok own =>
    rw [loadFrom_result hmet hown]
    simp only [bind_eq_ok_iff, mapM_eq_ok_iff, mapError_eq_ok_iff, Glob.asSet_eq_ok_iff,
      List.forall₂_iff_zip, hmet, not_false_eq_true, true_and, Except.ok.injEq, exists_eq_left']
    constructor
    · rintro ⟨cs, ⟨hlength, hcs⟩, -, ⟨hset, -⟩, hc⟩
      exact ⟨cs, hlength.symm, fun x hx => hcs hx, hset, (Except.ok.inj hc).symm⟩
    · rintro ⟨cs, hlength, hcs, hset, rfl⟩
      exact ⟨cs, ⟨hlength.symm, fun {a b} hab => hcs (a, b) hab⟩, _, ⟨hset, rfl⟩, rfl⟩

theorem loadFrom_eq_ok_iff : (loadFrom d visiting p).result = .ok c ↔ Loads d visiting p c := by
  constructor
  · -- By induction on the number of normal forms that have not been met.
    induction hn : Path.unmet visiting using Nat.strongRecOn generalizing visiting p c with
    | ind n ih =>
      intro h
      obtain ⟨hnew, own, hown, cs, hlength, hcs, hset, rfl⟩ := loadFrom_eq_ok_iff_step.1 h
      have hlt : Path.unmet (p.normalize :: visiting) < n :=
        hn ▸ Path.unmet_cons_lt (isShort_of_readOwn hown) hnew
      exact .of hnew hown hlength (fun x hx => ih _ hlt rfl (hcs x hx)) hset
  · intro h
    induction h with
    | of hnew hown hlength hcs hset ih =>
      exact loadFrom_eq_ok_iff_step.2 ⟨hnew, _, hown, _, hlength, ih, hset, rfl⟩

theorem ofFile_eq_ok_iff : (ofFile d p).result = .ok c ↔ Loads d [] p c := loadFrom_eq_ok_iff

/-! ### Putting configurations together -/

theorem settings_extendedBy (h : own.rules.Ascending) (c : LintConfig) :
    (c.extendedBy own).settings = c.settings.overriddenBy own.settings :=
  Settings.ext (funext (Dictionary.get?_merge c.rules h)) rfl

theorem settings_foldl_extendedBy {cs : List LintConfig} (h : ∀ c ∈ cs, c.rules.Ascending)
    (c : LintConfig) : (cs.foldl extendedBy c).settings =
      (cs.map settings).foldl Settings.overriddenBy c.settings := by
  induction cs generalizing c with
  | nil => rfl
  | cons b cs ih =>
    rw [List.foldl_cons, ih fun c hc => h c (List.mem_cons_of_mem _ hc),
      settings_extendedBy (h b List.mem_cons_self), List.map_cons, List.foldl_cons]

theorem exclude_foldl_extendedBy (cs : List LintConfig) (c : LintConfig) :
    (cs.foldl extendedBy c).exclude = c.exclude ++ cs.flatMap exclude := by
  induction cs generalizing c with
  | nil => simp
  | cons b cs ih => simp [ih, extendedBy]

theorem mem_rules_foldl_extendedBy {cs : List LintConfig} {a : String × RuleSetting}
    (h : a ∈ (cs.foldl extendedBy c).rules) : a ∈ c.rules ∨ ∃ b ∈ cs, a ∈ b.rules := by
  induction cs generalizing c with
  | nil => exact .inl h
  | cons b cs ih =>
    rcases ih h with h | ⟨b', hb', h⟩
    · exact (Dictionary.mem_merge h).imp_right fun h => ⟨b, List.mem_cons_self, h⟩
    · exact .inr ⟨b', List.mem_cons_of_mem _ hb', h⟩

theorem ascending_foldl_extendedBy {c : LintConfig} (h : c.rules.Ascending)
    (cs : List LintConfig) : (cs.foldl extendedBy c).rules.Ascending := by
  induction cs generalizing c with
  | nil => exact h
  | cons b cs ih => exact ih (h.merge b.rules)

/-! ### What has been loaded -/

namespace Loads

/-- A file that extends nothing is all that is loaded for it. -/
theorem leaf (hnew : p.normalize ∉ visiting) (hown : readOwn d p = .ok own)
    (hparents : own.parents p = []) : Loads d visiting p (own.inheriting p []) := by
  obtain ⟨text, -, htext⟩ := readOwn_eq_ok_iff.1 hown
  have hset : Glob.setFlaw? own.exclude = none := setFlaw?_of_ofText htext
  exact .of hnew hown (congrArg List.length hparents.symm) (by simp [hparents]) hset

theorem baseDir (h : Loads d visiting p c) : c.baseDir = some p.folder := by
  cases h
  rfl

/-- What is extended has been loaded, too, and its globs are among those that come out. -/
theorem of_extends (h : Loads d visiting p c) (hq : Extends d p q) :
    ∃ c', Loads d (p.normalize :: visiting) q c' ∧ c'.exclude ⊆ c.exclude := by
  cases h with
  | @of _ _ own cs hnew hown hlength hcs =>
    obtain ⟨own', hown', hq⟩ := hq
    obtain rfl := Except.ok.inj (hown.symm.trans hown')
    obtain ⟨c', hc'⟩ := exists_mem_zip hlength hq
    refine ⟨c', hcs _ hc', fun g hg => ?_⟩
    have hmem : c' ∈ cs := (List.of_mem_zip hc').2
    change g ∈ ((cs.foldl extendedBy {}).exclude ++ own.exclude)
    rw [exclude_foldl_extendedBy]
    exact List.mem_append_left _ (List.mem_append_right _ (List.mem_flatMap.2 ⟨c', hmem, hg⟩))

/-- A file can be loaded also if fewer ones have been met before. -/
theorem mono (h : Loads d visiting p c) (hsub : met ⊆ visiting) : Loads d met p c := by
  induction h generalizing met with
  | of hnew hown hlength hcs hset ih =>
    exact .of (fun hmem => hnew (hsub hmem)) hown hlength
      (fun x hx => ih x hx (List.cons_subset_cons _ hsub)) hset

/-- What is reached has been loaded, too, after what has been met before, and its globs are among
    those that come out. -/
theorem of_reaches (h : Loads d visiting p c) (hq : Reaches d p q) :
    ∃ met c', visiting ⊆ met ∧ Loads d met q c' ∧ c'.exclude ⊆ c.exclude := by
  induction hq with
  | refl => exact ⟨visiting, c, List.Subset.refl _, h, List.Subset.refl _⟩
  | tail _ hext ih =>
    obtain ⟨met, b, hmet, hb, hglobs⟩ := ih
    obtain ⟨c', hc', hglobs'⟩ := hb.of_extends hext
    exact ⟨_, c', fun x hx => .tail _ (hmet hx), hc', fun g hg => hglobs (hglobs' hg)⟩

theorem ascending (h : Loads d visiting p c) : c.rules.Ascending := by
  cases h
  exact (ascending_foldl_extendedBy Dictionary.ascending_nil _).merge _

/-- What is true of what comes out is true of one of the files that are reached, if it does not come
    of putting them together. -/
theorem exists_of_loaded {P : LintConfig → Prop} (hfrom : ∀ own p cs,
      P (inheriting own p cs) → (∃ c ∈ cs, P c) ∨ P own)
    (h : Loads d visiting p c) (hc : P c) :
    ∃ q own, Reaches d p q ∧ readOwn d q = .ok own ∧ P own := by
  induction h with
  | @of visiting p own cs hnew hown hlength hcs hset ih =>
    rcases hfrom own p cs hc with ⟨c, hmem, hc⟩ | hc
    · rw [← List.map_snd_zip hlength.le, List.mem_map] at hmem
      obtain ⟨x, hx, rfl⟩ := hmem
      obtain ⟨q, own', hq, hown', hc'⟩ := ih x hx hc
      exact ⟨q, own', .head ⟨own, hown, (List.of_mem_zip hx).1⟩ hq, hown', hc'⟩
    · exact ⟨p, own, .refl, hown, hc⟩

/-- Each rule that comes out stands in one of the files that are reached. -/
theorem exists_of_mem_rules (h : Loads d visiting p c) {a : String × RuleSetting}
    (ha : a ∈ c.rules) : ∃ q own, Reaches d p q ∧ readOwn d q = .ok own ∧ a ∈ own.rules := by
  refine h.exists_of_loaded (fun own p cs hmem => ?_) ha
  refine (Dictionary.mem_merge hmem).imp_left fun hmem => ?_
  exact (mem_rules_foldl_extendedBy hmem).resolve_left List.not_mem_nil

/-- Each glob that comes out stands in one of the files that are reached. -/
theorem exists_of_mem_exclude (h : Loads d visiting p c) {g : Glob} (hg : g ∈ c.exclude) :
    ∃ q own, Reaches d p q ∧ readOwn d q = .ok own ∧ g ∈ own.exclude := by
  refine h.exists_of_loaded (fun own p cs hmem => ?_) hg
  change g ∈ (cs.foldl extendedBy {}).exclude ++ own.exclude at hmem
  rw [exclude_foldl_extendedBy, List.nil_append, List.mem_append, List.mem_flatMap] at hmem
  exact hmem

theorem setFlaw?_eq_none (h : Loads d visiting p c) : Glob.setFlaw? c.exclude = none := by
  cases h
  assumption

end Loads

/-- What is put together holds the settings that come of the file, if what it extends does. -/
theorem effective_inheriting {cs : List LintConfig} (hown : readOwn d p = .ok own)
    (hlength : cs.length = (own.parents p).length)
    (hcs : ∀ x ∈ (own.parents p).zip cs, x.2.rules.Ascending ∧ Effective d x.1 x.2.settings) :
    Effective d p (own.inheriting p cs).settings := by
  have hascending : ∀ c ∈ cs, c.rules.Ascending := by
    intro c hc
    rw [← List.map_snd_zip hlength.le, List.mem_map] at hc
    obtain ⟨x, hx, rfl⟩ := hc
    exact (hcs x hx).1
  have hsettings : (own.inheriting p cs).settings =
      ((cs.map settings).foldl Settings.overriddenBy .empty).overriddenBy own.settings := by
    change ((cs.foldl extendedBy {}).extendedBy own).settings = _
    rw [settings_extendedBy (ascending_of_readOwn hown), settings_foldl_extendedBy hascending]
    rfl
  rw [hsettings]
  refine .of hown (by rw [List.length_map, hlength]) fun x hx => ?_
  rw [List.zip_map_right, List.mem_map] at hx
  obtain ⟨y, hy, rfl⟩ := hx
  exact (hcs y hy).2

/-- What has been loaded holds the settings that come of the file. -/
theorem Loads.effective (h : Loads d visiting p c) : Effective d p c.settings := by
  induction h with
  | of hnew hown hlength hcs hset ih =>
    exact effective_inheriting hown hlength fun x hx => ⟨(hcs x hx).ascending, ih x hx⟩

/-- There is one fold of the settings of a file. -/
theorem Effective.unique {s t : Settings} (hs : Effective d p s) (ht : Effective d p t) : s = t := by
  induction hs generalizing t with
  | @of p own inherited hown hlength hinherited ih =>
    cases ht with
    | @of _ own' inherited' hown' hlength' hinherited' =>
      obtain rfl := Except.ok.inj (hown.symm.trans hown')
      -- Place by place, by induction on the files that are extended.
      have heq : inherited = inherited' := by
        refine List.ext_getElem (hlength.trans hlength'.symm) fun i hi hi' => ?_
        have hparent : i < (own.parents p).length := hlength ▸ hi
        exact ih _ (getElem_mem_zip hparent hi) (hinherited' _ (getElem_mem_zip hparent hi'))
      rw [heq]

/-- On the way through files that extend others, after those of `s.1`, from the file `s.2`. -/
def Follows (d : Disk) (s t : List Path × Path) : Prop :=
  s.2.normalize ∉ s.1 ∧ Extends d s.2 t.2 ∧ t.1 = s.2.normalize :: s.1

theorem globs_singleton {text : String} {g : Glob} (hread : Glob.ofText? false text = .ok g)
    (hset : Glob.setFlaw? [g] = none) : globs [text] = .ok [g] := by
  have hmap : [text].mapM (fun text => (Glob.ofText? false text).mapError Problem.invalidExclude) =
      .ok [g] := by
    rw [List.mapM_cons, hread]
    rfl
  rw [globs, hmap]
  exact mapError_eq_ok_iff.2 (Glob.asSet_eq_ok_iff.2 ⟨hset, rfl⟩)

/-- A document with a list of texts in one field. -/
def listing (name : String) (texts : List String) : Json := .record [(name, .ofList .string texts)]

end Autofix.LintConfig
