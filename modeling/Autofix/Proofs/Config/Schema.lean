import Autofix.Config.Schema
import Autofix.Proofs.Dictionary
import Mathlib.Logic.Basic

/-!
# What schemas allow

A schema allows a value if no violation is found in it. For each kind of schema this comes to what
the schema says: an array is allowed if all its items are (`allows_array_iff`), an object if its
fields are, where a closed schema has to know all of them (`allows_closed_iff`) and an opened one
looks at those that it knows (`allows_opened_iff`). From this follows what may stand for a rule in a
configuration (`allows_ruleSetting_iff`) and in a configuration as a whole (`allows_config_iff`).
-/

namespace Autofix.Schema

variable {s : Schema} {known : List (String × Schema)} {options : List Schema} {v : Json}

/-! ### What each kind of schema looks for

These hold by computation, so that nothing below unfolds the mutual recursion of `violation?`. -/

theorem violation?_boolean (v : Json) : boolean.violation? v = match v with
    | .bool _ => none
    | v => some ⟨.wrongType v "boolean", []⟩ := rfl

theorem violation?_string (v : Json) : string.violation? v = match v with
    | .string _ => none
    | v => some ⟨.wrongType v "string", []⟩ := rfl

theorem violation?_word (words : List String) (v : Json) : (word words).violation? v = match v with
    | .string s => if words.contains s then none else some ⟨.noWord (.string s) words, []⟩
    | v => some ⟨.wrongType v "string", []⟩ := rfl

theorem violation?_array (s : Schema) (v : Json) : (array s).violation? v = match v with
    | .array items => firstItem? s.violation? 0 items
    | v => some ⟨.wrongType v "array", []⟩ := rfl

theorem violation?_choice (options : List Schema) (v : Json) : (choice options).violation? v =
    if anyAllows options v then none else some ⟨.noChoice v, []⟩ := rfl

theorem violation?_closed (known : List (String × Schema)) (v : Json) :
    (closed known).violation? v = match v with
    | .record entries => firstField? (fun name v =>
        (fieldViolation? known name v).getD (some ⟨.unexpectedField name, []⟩)) entries
    | v => some ⟨.wrongType v "object", []⟩ := rfl

theorem violation?_opened (known : List (String × Schema)) (v : Json) :
    (opened known).violation? v = match v with
    | .record entries => firstField? (fun name v => (fieldViolation? known name v).getD none) entries
    | v => some ⟨.wrongType v "object", []⟩ := rfl

theorem violation?_dictionary (s : Schema) (v : Json) : (dictionary s).violation? v = match v with
    | .record entries =>
      firstField? (fun name v => (s.violation? v).map (Violation.under name)) entries
    | v => some ⟨.wrongType v "object", []⟩ := rfl

/-! ### Values of one type -/

theorem allows_boolean_iff : boolean.allows v ↔ ∃ b, v = .bool b := by
  cases v <;> simp [allows, violation?_boolean]

theorem allows_string_iff : string.allows v ↔ ∃ s, v = .string s := by
  cases v <;> simp [allows, violation?_string]

theorem allows_word_iff {words : List String} :
    (word words).allows v ↔ ∃ w ∈ words, v = .string w := by
  cases v <;> simp [allows, violation?_word]

/-! ### Items and fields -/

theorem firstItem?_eq_none_iff {violation? : Json → Option Violation} {index : Nat}
    {items : List Json} :
    firstItem? violation? index items = none ↔ ∀ w ∈ items, violation? w = none := by
  induction items generalizing index with
  | nil => simp [firstItem?]
  | cons w items ih =>
    rw [firstItem?, List.forall_mem_cons]
    cases violation? w with
    | none => simp [ih]
    | some violation => simp

theorem firstField?_eq_none_iff {violation? : String → Json → Option Violation}
    {entries : List (String × Json)} :
    firstField? violation? entries = none ↔ ∀ a ∈ entries, violation? a.1 a.2 = none := by
  induction entries with
  | nil => simp [firstField?]
  | cons a entries ih =>
    rw [firstField?, List.forall_mem_cons]
    cases violation? a.1 a.2 with
    | none => simp [ih]
    | some violation => simp

/-- In a field that the schema knows there is the violation of the schema for this field. -/
theorem fieldViolation?_eq (name : String) : fieldViolation? known name v =
    (Dictionary.get? known name).map fun s => (s.violation? v).map (Violation.under name) := by
  induction known with
  | nil => rfl
  | cons a known ih =>
    obtain ⟨key, s⟩ := a
    rw [fieldViolation?, Dictionary.get?_cons, ih]
    by_cases h : key = name
    · simp [h]
    · simp [h, Ne.symm h]

theorem allows_array_iff :
    (array s).allows v ↔ ∃ items, v = .array items ∧ ∀ w ∈ items, s.allows w := by
  cases v <;> simp [allows, violation?_array, firstItem?_eq_none_iff]

theorem allows_dictionary_iff :
    (dictionary s).allows v ↔ ∃ entries, v = .record entries ∧ ∀ a ∈ entries, s.allows a.2 := by
  cases v <;> simp [allows, violation?_dictionary, firstField?_eq_none_iff]

theorem allows_closed_iff : (closed known).allows v ↔ ∃ entries, v = .record entries ∧
    ∀ a ∈ entries, ∃ s, Dictionary.get? known a.1 = some s ∧ s.allows a.2 := by
  cases v with
  | record entries =>
    simp only [allows, violation?_closed, Option.isNone_iff_eq_none, firstField?_eq_none_iff,
      fieldViolation?_eq, Json.record.injEq, exists_eq_left']
    refine forall₂_congr fun a _ => ?_
    cases Dictionary.get? known a.1 <;> simp
  | null | bool | number | string | array => simp [allows, violation?_closed]

theorem allows_opened_iff : (opened known).allows v ↔ ∃ entries, v = .record entries ∧
    ∀ a ∈ entries, ∀ s, Dictionary.get? known a.1 = some s → s.allows a.2 := by
  cases v with
  | record entries =>
    simp only [allows, violation?_opened, Option.isNone_iff_eq_none, firstField?_eq_none_iff,
      fieldViolation?_eq, Json.record.injEq, exists_eq_left']
    refine forall₂_congr fun a _ => ?_
    cases Dictionary.get? known a.1 <;> simp
  | null | bool | number | string | array => simp [allows, violation?_opened]

/-! ### Choices -/

theorem anyAllows_iff : anyAllows options v ↔ ∃ s ∈ options, s.allows v := by
  induction options with
  | nil => simp [anyAllows]
  | cons s options ih =>
    rw [anyAllows, Bool.or_eq_true, ih, List.exists_mem_cons_iff]
    rfl

theorem allows_choice_iff : (choice options).allows v ↔ ∃ s ∈ options, s.allows v := by
  rw [← anyAllows_iff, allows, violation?_choice]
  cases anyAllows options v <;> simp

/-! ### Lint configurations -/

/-- The options of a rule that have to be texts. -/
def textOptions : List String := ["pattern", "replacement", "message"]

/-- For a rule there may stand a truth value, a word for the severity, or an object in which the
    severity is such a word and the other known options are texts. -/
theorem allows_ruleSetting_iff : ruleSetting.allows v ↔ (∃ b, v = .bool b) ∨
    (∃ w ∈ severityWords, v = .string w) ∨ ∃ entries, v = .record entries ∧ ∀ a ∈ entries,
      (a.1 = "severity" → ∃ w ∈ severityWords, a.2 = .string w) ∧
      (a.1 ∈ textOptions → ∃ text, a.2 = .string text) := by
  simp only [ruleSetting, allows_choice_iff, List.exists_mem_cons_iff, List.not_mem_nil, false_and,
    exists_false, or_false, allows_boolean_iff, allows_word_iff, ruleOptions, allows_opened_iff]
  refine or_congr_right (or_congr_right (exists_congr fun entries => and_congr_right fun _ =>
    forall₂_congr fun a _ => ?_))
  simp only [Dictionary.get?_cons, textOptions]
  by_cases hseverity : a.1 = "severity"
  · simp [hseverity, allows_word_iff]
  · by_cases htext : a.1 = "pattern" ∨ a.1 = "replacement" ∨ a.1 = "message"
    · rcases htext with h | h | h <;> simp [h, allows_string_iff]
    · simp only [not_or] at htext
      simp [hseverity, htext, Dictionary.get?]

/-- What may stand in a configuration. -/
inductive AllowedField : String × Json → Prop
  | schema (text : String) : AllowedField ("$schema", .string text)
  | extendsOne (parent : String) : AllowedField ("extends", .string parent)
  | extendsMany (parents : List String) : AllowedField ("extends", .ofList .string parents)
  | rules {entries : List (String × Json)} (h : ∀ a ∈ entries, ruleSetting.allows a.2) :
      AllowedField ("rules", .record entries)
  | exclude (globs : List String) : AllowedField ("exclude", .ofList .string globs)

/-- For the rules there stands an object that has something allowed for each rule. -/
theorem AllowedField.exists_rules (h : AllowedField ("rules", v)) :
    ∃ entries, v = .record entries ∧ ∀ a ∈ entries, ruleSetting.allows a.2 := by
  generalize hname : ("rules", v) = a at h
  cases h with
  | rules h => exact ⟨_, (Prod.mk.inj hname).2, h⟩
  | schema | extendsOne | extendsMany | exclude =>
    exact absurd (Prod.mk.inj hname).1 (by decide)

/-- An array of texts is made of a list of texts. -/
theorem allows_array_string_iff :
    (array string).allows v ↔ ∃ texts : List String, v = .ofList .string texts := by
  simp only [allows_array_iff, allows_string_iff]
  constructor
  · rintro ⟨items, rfl, h⟩
    choose! text htext using h
    refine ⟨items.map text, ?_⟩
    rw [Json.ofList, List.map_map]
    exact congrArg Json.array ((List.map_id items).symm.trans (List.map_congr_left htext))
  · rintro ⟨texts, rfl⟩
    exact ⟨_, rfl, List.forall_mem_map.2 fun text _ => ⟨text, rfl⟩⟩

/-- A configuration is an object of such fields. -/
theorem allows_config_iff : config.allows v ↔ ∃ entries, v = .record entries ∧
    ∀ a ∈ entries, AllowedField a := by
  simp only [config, allows_closed_iff]
  refine exists_congr fun entries => and_congr_right fun _ => forall₂_congr fun a _ => ?_
  obtain ⟨name, w⟩ := a
  constructor
  · rintro ⟨s, hs, hw⟩
    -- The schema has one entry for each name of a field, and none for other names.
    simp only [Dictionary.get?_cons] at hs
    split_ifs at hs with h₁ h₂ h₃ h₄
    · obtain rfl := Option.some.inj hs
      obtain ⟨text, rfl⟩ := allows_string_iff.1 hw
      exact h₁ ▸ .schema text
    · obtain rfl := Option.some.inj hs
      obtain ⟨s, hs, hw⟩ := allows_choice_iff.1 hw
      simp only [List.mem_cons, List.not_mem_nil, or_false] at hs
      rcases hs with rfl | rfl
      · obtain ⟨parent, rfl⟩ := allows_string_iff.1 hw
        exact h₂ ▸ .extendsOne parent
      · obtain ⟨parents, rfl⟩ := allows_array_string_iff.1 hw
        exact h₂ ▸ .extendsMany parents
    · obtain rfl := Option.some.inj hs
      obtain ⟨entries, rfl, hentries⟩ := allows_dictionary_iff.1 hw
      exact h₃ ▸ .rules hentries
    · obtain rfl := Option.some.inj hs
      obtain ⟨globs, rfl⟩ := allows_array_string_iff.1 hw
      exact h₄ ▸ .exclude globs
    · cases hs
  · rintro (⟨text⟩ | ⟨parent⟩ | ⟨parents⟩ | ⟨h⟩ | ⟨globs⟩)
    · exact ⟨_, rfl, allows_string_iff.2 ⟨text, rfl⟩⟩
    · exact ⟨_, rfl, allows_choice_iff.2 ⟨.string, by simp, allows_string_iff.2 ⟨parent, rfl⟩⟩⟩
    · exact ⟨_, rfl, allows_choice_iff.2
        ⟨.array .string, by simp, allows_array_string_iff.2 ⟨parents, rfl⟩⟩⟩
    · exact ⟨_, rfl, allows_dictionary_iff.2 ⟨_, rfl, h⟩⟩
    · exact ⟨_, rfl, allows_array_string_iff.2 ⟨globs, rfl⟩⟩

end Autofix.Schema
