import Autofix.Proofs.Json.Reading
import Autofix.TaskOptions
import Mathlib.Algebra.Order.Group.Multiset
import Mathlib.Tactic.Abel

/-!
# Options that are written and read

Options that have been written as compact JSON are read back as they were, whatever is set in them
(`TaskOptions.ofText_compact`). The reader sees their fields in the order of the names
(`TaskOptions.ordered`), which is not the order they are written in.
-/

namespace Autofix

namespace Json

/-- A value that a reader gives back as it has been written. -/
def Stable (v : Json) : Prop := v.sorted = v ∧ v.Integral

theorem stable_string (s : String) : (string s).Stable := ⟨rfl, .string s⟩

theorem stable_bool (b : Bool) : (bool b).Stable := ⟨rfl, .bool b⟩

/-! ### Optional fields -/

variable {α β σ ε : Type} {name : String} {toJson : α → Json}

theorem stable_optionalField (h : ∀ a, (toJson a).Stable) (a : Option α) :
    ∀ field ∈ optionalField name toJson a, field.2.Stable := by
  cases a with
  | none => exact fun _ hfield => absurd hfield List.not_mem_nil
  | some a => exact List.forall_mem_singleton.2 (h a)

/-- A step over an optional field takes over the value that is there, if any. -/
theorem foldlM_optionalField {f : σ → String × Json → Except ε σ} (set : Option α → σ)
    (h : ∀ a, f (set none) (name, toJson a) = .ok (set (some a))) (a : Option α) :
    (optionalField name toJson a).foldlM f (set none) = .ok (set a) := by
  cases a with
  | none => rfl
  | some a =>
    rw [optionalField, Option.map_some, Option.toList_some, List.foldlM_cons, h]
    rfl

theorem foldlM_append_ok {f : σ → β → Except ε σ} {l m : List β} {a b c : σ}
    (hl : l.foldlM f a = .ok b) (hm : m.foldlM f b = .ok c) : (l ++ m).foldlM f a = .ok c := by
  rw [List.foldlM_append, hl]
  exact hm

end Json

/-! ### One text or a list -/

theorem Decoder.list_string_ofList (ss : List String) :
    Decoder.list Decoder.string (.ofList .string ss) = .ok ss := by
  have hmap : (ss.map Json.string).mapM Decoder.string = .ok ss := by
    induction ss with
    | nil => rfl
    | cons s ss ih =>
      rw [List.map_cons, List.mapM_cons, ih]
      rfl
  exact hmap

namespace OneOrMany

theorem stable_toJson (v : OneOrMany) : v.toJson.Stable := by
  cases v with
  | one s => exact Json.stable_string s
  | many ss =>
    refine ⟨?_, .array (List.forall_mem_map.2 fun s _ => .string s)⟩
    rw [toJson, Json.ofList, Json.sorted, Json.sortedItems_eq, List.map_map]
    rfl

/-- One text stays one text, and a list a list, also one of no texts or of one. -/
theorem decode_toJson (v : OneOrMany) : Decoder.option decode v.toJson = .ok (some v) := by
  cases v with
  | one s => rfl
  | many ss =>
    have hlist := Decoder.list_string_ofList ss
    rw [Json.ofList] at hlist
    simp [toJson, Json.ofList, Decoder.option, decode, hlist, Except.map]

end OneOrMany

namespace TaskOptions

open Json

variable (o : TaskOptions)

/-! ### What is written -/

/-- The fields of options in the order of their names. -/
def ordered : List (String × Json) :=
  optionalField "compilerConfigPath" Path.toJson o.compilerConfigPath
  ++ optionalField "explicitFiles" OneOrMany.toJson o.explicitFiles
  ++ [("ignoreErrors", .bool o.ignoreErrors)]
  ++ optionalField "includePatterns" OneOrMany.toJson o.includePatterns
  ++ optionalField "lintConfigPath" Path.toJson o.lintConfigPath
  ++ optionalField "lintRulesPath" Path.toJson o.lintRulesPath
  ++ optionalField "outputFormat" .string o.outputFormat
  ++ [("silent", .bool o.silent)]

theorem ascending_ordered : Dictionary.Ascending o.ordered := by
  have hnames : (o.ordered.map (·.1)).Sublist
      (["compilerConfigPath"] ++ ["explicitFiles"] ++ ["ignoreErrors"] ++ ["includePatterns"]
        ++ ["lintConfigPath"] ++ ["lintRulesPath"] ++ ["outputFormat"] ++ ["silent"]) := by
    simp only [ordered, List.map_append]
    exact (((((((names_optionalField _).append (names_optionalField _)).append (.refl _)).append
      (names_optionalField _)).append (names_optionalField _)).append (names_optionalField _)).append
      (names_optionalField _)).append (.refl _)
  exact List.pairwise_map.1 (List.Pairwise.sublist hnames (by decide))

/-- No field holds an object or a number. -/
theorem stable_ordered : ∀ field ∈ o.ordered, field.2.Stable := by
  have hpath : ∀ p : Path, p.toJson.Stable := fun p => stable_string p.text
  simp only [ordered, List.forall_mem_append, List.forall_mem_singleton]
  exact ⟨⟨⟨⟨⟨⟨⟨stable_optionalField hpath _, stable_optionalField OneOrMany.stable_toJson _⟩,
    stable_bool _⟩, stable_optionalField OneOrMany.stable_toJson _⟩,
    stable_optionalField hpath _⟩, stable_optionalField hpath _⟩,
    stable_optionalField stable_string _⟩, stable_bool _⟩

/-- Options are written with these fields, in another order. -/
theorem exists_toJson : ∃ fields, o.toJson = .record fields ∧ fields.Perm o.ordered := by
  refine ⟨_, rfl, ?_⟩
  have hsplit : ∀ a b : String × Json, [a, b] = [a] ++ [b] := fun _ _ => rfl
  rw [hsplit, ← Multiset.coe_eq_coe]
  simp only [ordered, optionalField, ← Multiset.coe_add]
  abel

theorem sorted_toJson : o.toJson.sorted = .record o.ordered := by
  obtain ⟨fields, hjson, hperm⟩ := o.exists_toJson
  have hfields : fields.map (fun a => (a.1, a.2.sorted)) = fields :=
    Dictionary.mapValues_eq_self fun a ha => (o.stable_ordered a (hperm.mem_iff.1 ha)).1
  rw [hjson]
  exact sorted_record_of_perm o.ascending_ordered (hfields.symm ▸ hperm)

theorem integral_toJson : o.toJson.Integral := by
  obtain ⟨fields, hjson, hperm⟩ := o.exists_toJson
  rw [hjson]
  exact .record fun a ha => (o.stable_ordered a (hperm.mem_iff.1 ha)).2

/-! ### What is read -/

/-- What is known of options once one more field has been looked at. -/
def look (known : TaskOptions) (field : String × Json) : Except DecodeError TaskOptions := do
  if fieldNames.contains field.1 then takeField known field.1 field.2
  else do refuseField fieldNames field.1; return known

theorem look_explicitFiles (known : TaskOptions) (v : OneOrMany) :
    look known ("explicitFiles", v.toJson) = .ok { known with explicitFiles := v } := by
  simp [look, fieldNames, takeField, OneOrMany.decode_toJson, bind, Except.bind, pure, Except.pure]

theorem look_includePatterns (known : TaskOptions) (v : OneOrMany) :
    look known ("includePatterns", v.toJson) = .ok { known with includePatterns := v } := by
  simp [look, fieldNames, takeField, OneOrMany.decode_toJson, bind, Except.bind, pure, Except.pure]

/-- Each field sets what it has been written for, one after the other. -/
theorem foldlM_ordered : o.ordered.foldlM look {} = .ok o := by
  obtain ⟨config, rules, compiler, files, patterns, format, silent, ignoring⟩ := o
  simp only [ordered, List.append_assoc]
  refine foldlM_append_ok (foldlM_optionalField
    (fun c => TaskOptions.mk none none c none none none false false) (fun _ => rfl) _) ?_
  refine foldlM_append_ok (foldlM_optionalField
    (fun c => TaskOptions.mk none none compiler c none none false false)
    (look_explicitFiles _) _) ?_
  refine foldlM_append_ok (b := .mk none none compiler files none none false ignoring) rfl ?_
  refine foldlM_append_ok (foldlM_optionalField
    (fun c => TaskOptions.mk none none compiler files c none false ignoring)
    (look_includePatterns _) _) ?_
  refine foldlM_append_ok (foldlM_optionalField
    (fun c => TaskOptions.mk c none compiler files patterns none false ignoring)
    (fun _ => rfl) _) ?_
  refine foldlM_append_ok (foldlM_optionalField
    (fun c => TaskOptions.mk config c compiler files patterns none false ignoring)
    (fun _ => rfl) _) ?_
  refine foldlM_append_ok (foldlM_optionalField
    (fun c => TaskOptions.mk config rules compiler files patterns c false ignoring)
    (fun _ => rfl) _) ?_
  rfl

theorem decode_ordered : decode (.record o.ordered) = .ok o := by
  have hdecode : decode (.record o.ordered) =
      o.ordered.foldlM look {} >>= fun known => pure known := rfl
  rw [hdecode, foldlM_ordered]
  rfl

/-- Options that have been written are read as they were. So are those that have been read from a
    text, whatever its form. -/
theorem ofText_compact : (∀ o : TaskOptions, ofText o.toJson.compact = .ok o) ∧
    ∀ text, (do ofText (← ofText text).toJson.compact) = ofText text := by
  have hread : ∀ o : TaskOptions, ofText o.toJson.compact = .ok o := fun o => by
    have hvalue : Json.read? o.toJson.compact = .ok (some (.record o.ordered)) :=
      o.sorted_toJson ▸ Json.read?_compact o.integral_toJson
    rw [ofText, hvalue]
    dsimp only [Option.getD_some]
    rw [decode_ordered]
    rfl
  refine ⟨hread, fun text => ?_⟩
  cases ofText text with
  | error problem => rfl
  | ok o => simp only [bind, Except.bind, hread]

end TaskOptions

end Autofix
