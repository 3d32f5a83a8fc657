import Autofix.Config
import Autofix.Proofs.Glob.Set
import Autofix.Proofs.Json.Held
import Mathlib.Data.List.Forall2

/-!
# What a configuration document says

Each rule of a document has the setting that is read from what is written for it
(`Document.decodeRules_eq_ok_iff`). The rules stand in the order of their names, each once
(`ascending_of_ofText`).
-/

namespace Autofix

/-! ### Lists -/

/-- A list is read if each of its elements is. -/
theorem mapM_eq_ok_iff {α β ε : Type} {f : α → Except ε β} {l : List α} {bs : List β} :
    l.mapM f = .ok bs ↔ List.Forall₂ (fun a b => f a = .ok b) l bs := by
  induction l generalizing bs with
  | nil =>
    rw [List.mapM_nil, List.forall₂_nil_left_iff]
    exact ⟨fun h => (Except.ok.inj h).symm, fun h => congrArg _ h.symm⟩
  | cons a l ih =>
    simp only [List.mapM_cons, bind_eq_ok_iff, List.forall₂_cons_left_iff, ih]
    constructor
    · rintro ⟨b, hb, bs', hbs', heq⟩
      exact ⟨b, bs', hb, hbs', (Except.ok.inj heq).symm⟩
    · rintro ⟨b, bs', hb, hbs', rfl⟩
      exact ⟨b, hb, bs', hbs', rfl⟩

/-- What goes wrong in a list goes wrong for one of its elements. -/
theorem exists_of_mapM_eq_error {α β ε : Type} {f : α → Except ε β} {l : List α} {e : ε}
    (h : l.mapM f = .error e) : ∃ a ∈ l, f a = .error e := by
  induction l with
  | nil => cases h
  | cons a l ih =>
    rw [List.mapM_cons] at h
    cases ha : f a with
    | error e' =>
      rw [ha] at h
      exact ⟨a, List.mem_cons_self, by rw [ha, Except.error.inj h]⟩
    | ok b =>
      rw [ha] at h
      cases hl : l.mapM f with
      | error e' =>
        obtain ⟨a, hmem, ha⟩ := ih (by rw [hl] at h ⊢; exact h)
        exact ⟨a, List.mem_cons_of_mem _ hmem, ha⟩
      | ok bs =>
        rw [hl] at h
        cases h

/-- What the second list has comes from something in the first one. -/
theorem exists_of_forall₂ {α β : Type} {R : α → β → Prop} {l : List α} {bs : List β}
    (h : List.Forall₂ R l bs) {b : β} (hb : b ∈ bs) : ∃ a ∈ l, R a b := by
  induction h with
  | nil => exact absurd hb List.not_mem_nil
  | cons hab _ ih =>
    rcases List.mem_cons.1 hb with rfl | hb
    · exact ⟨_, List.mem_cons_self, hab⟩
    · obtain ⟨a, ha, h⟩ := ih hb
      exact ⟨a, List.mem_cons_of_mem _ ha, h⟩

namespace LintConfig

/-! ### Rules -/

namespace Document

/-- A rule has the setting that is read from what is written under its name. -/
def Reads (a : String × Json) (b : String × RuleSetting) : Prop :=
  b.1 = a.1 ∧ RuleSetting.decode a.2 = .ok b.2

variable {v : Json} {fields : List (String × Json)} {rules : Dictionary RuleSetting}

theorem decodeRules_eq_ok_iff :
    decodeRules (.record fields) = .ok rules ↔ List.Forall₂ Reads fields rules := by
  have hfield : ∀ (a : String × Json) (b : String × RuleSetting),
      (do return (a.1, ← RuleSetting.decode a.2) : Except DecodeError _) = .ok b ↔ Reads a b := by
    intro a b
    rw [bind_eq_ok_iff]
    constructor
    · rintro ⟨s, hs, heq⟩
      obtain rfl := Except.ok.inj heq
      exact ⟨rfl, hs⟩
    · rintro ⟨hname, hs⟩
      exact ⟨b.2, hs, congrArg Except.ok (Prod.ext hname.symm rfl)⟩
  exact mapM_eq_ok_iff.trans (by simp only [hfield])

/-- Rules cannot be read where the setting of one of them cannot. -/
theorem exists_of_decodeRules_eq_error {e : DecodeError}
    (h : decodeRules (.record fields) = .error e) :
    ∃ a ∈ fields, RuleSetting.decode a.2 = .error e := by
  obtain ⟨⟨name, v⟩, ha, he⟩ := exists_of_mapM_eq_error h
  refine ⟨_, ha, ?_⟩
  dsimp only at he ⊢
  cases hs : RuleSetting.decode v with
  | error e' =>
    rw [hs] at he
    exact congrArg _ (Except.error.inj he)
  | ok s =>
    rw [hs] at he
    cases he

/-- The settings that are read stand under the same names. -/
theorem ascending_of_reads (hfields : Dictionary.Ascending fields)
    (h : List.Forall₂ Reads fields rules) : rules.Ascending := by
  have hnames : rules.map Prod.fst = fields.map Prod.fst := by
    induction h with
    | nil => rfl
    | cons hread _ ih => rw [List.map_cons, List.map_cons, hread.1, ih hfields.tail]
  have hascending : (fields.map Prod.fst).Pairwise (· < ·) := List.pairwise_map.2 hfields
  exact List.pairwise_map.1 (hnames ▸ hascending)

theorem ascending_of_decodeRules (hv : v.Ordered) (h : decodeRules v = .ok rules) :
    rules.Ascending := by
  cases hv with
  | record hnames => exact ascending_of_reads hnames (decodeRules_eq_ok_iff.1 h)
  | null | bool | number | string | array => cases h

end Document

/-! ### Documents -/

theorem Document.ascending_of_takeField {c c' : Document} {name : String} {v : Json}
    (hc : c.rules.Ascending) (hv : v.Ordered) (h : takeField c name v = .ok c') :
    c'.rules.Ascending := by
  unfold takeField at h
  split_ifs at h
  · obtain ⟨_, -, h⟩ := bind_eq_ok_iff.1 h
    exact Except.ok.inj h ▸ hc
  · obtain ⟨_, -, h⟩ := bind_eq_ok_iff.1 h
    exact Except.ok.inj h ▸ hc
  · obtain ⟨rules, hrules, h⟩ := bind_eq_ok_iff.1 h
    exact Except.ok.inj h ▸ ascending_of_decodeRules hv hrules
  · obtain ⟨_, -, h⟩ := bind_eq_ok_iff.1 h
    exact Except.ok.inj h ▸ hc

theorem Document.ascending_of_decode {v : Json} {c : Document} (hv : v.Ordered)
    (h : decode v = .ok c) : c.rules.Ascending := by
  unfold decode at h
  refine invariant_of_decodeRecord (P := fun c : Document => c.rules.Ascending)
    (Q := fun c : Document => c.rules.Ascending) Dictionary.ascending_nil
    (fun _ _ _ _ => ascending_of_takeField) (fun _ _ _ hc h => ?_) hv h
  exact Except.ok.inj h ▸ hc

/-- A document is the value that its text holds, with the names in each object in order. -/
theorem exists_ofJson_of_ofText {text : String} {c : LintConfig} (h : ofText text = .ok c) :
    ∃ v : Json, v.Ordered ∧ ofJson v = .ok c := by
  unfold ofText at h
  split at h
  · cases h
  · rename_i v hread
    refine ⟨v.getD (.object []), ?_, h⟩
    cases v with
    | none => exact Json.ordered_object fun a ha => absurd ha List.not_mem_nil
    | some v => exact Json.ordered_of_read? hread

/-- The rules of a document stand in the order of their names. -/
theorem ascending_of_ofText {text : String} {c : LintConfig} (h : ofText text = .ok c) :
    c.rules.Ascending := by
  obtain ⟨v, hv, h⟩ := exists_ofJson_of_ofText h
  unfold ofJson at h
  split at h
  · cases h
  · obtain ⟨document, hdocument, h⟩ := bind_eq_ok_iff.1 h
    obtain ⟨globs, -, h⟩ := bind_eq_ok_iff.1 h
    obtain rfl := Except.ok.inj h
    exact Document.ascending_of_decode hv (mapError_eq_ok_iff.1 hdocument)

/-- The globs of a list of texts make up a set. -/
theorem setFlaw?_of_globs {texts : List String} {gs : List Glob} (h : globs texts = .ok gs) :
    Glob.setFlaw? gs = none := by
  obtain ⟨read, -, hset⟩ := bind_eq_ok_iff.1 h
  obtain ⟨hset, rfl⟩ := Glob.asSet_eq_ok_iff.1 (mapError_eq_ok_iff.1 hset)
  exact hset

theorem setFlaw?_of_ofText {text : String} {c : LintConfig} (h : ofText text = .ok c) :
    Glob.setFlaw? c.exclude = none := by
  obtain ⟨v, -, h⟩ := exists_ofJson_of_ofText h
  unfold ofJson at h
  split at h
  · cases h
  · obtain ⟨document, -, h⟩ := bind_eq_ok_iff.1 h
    obtain ⟨gs, hgs, h⟩ := bind_eq_ok_iff.1 h
    obtain rfl := Except.ok.inj h
    exact setFlaw?_of_globs hgs

end LintConfig

end Autofix
