import Autofix.Proofs.Json.Reading
import Autofix.Proofs.Json.Standard
import Autofix.Report.Format
import Mathlib.Algebra.Order.Group.Multiset
import Mathlib.Tactic.Abel

/-!
# Reports as data

The report in the format `json` is standard JSON, and the failures can be read back from it, all of
them, in their order and with all their fields (`decode_render_json`).
-/

namespace Autofix

/-! ### Numbers in memory -/

/-- The offsets of a span are below `2 ^ 64`, as those in a text in memory are. -/
def Span.Bounded (s : Span) : Prop := s.start < 2 ^ 64 ∧ s.stop < 2 ^ 64

def Position.Bounded (p : Position) : Prop := p.line < 2 ^ 64 ∧ p.column < 2 ^ 64

def Location.Bounded (l : Location) : Prop := l.start.Bounded ∧ l.stop.Bounded

/-- All numbers in a diagnostic are below `2 ^ 64`. -/
structure Diagnostic.Bounded (d : Diagnostic) : Prop where
  span : d.span.Bounded
  loc : ∀ loc ∈ d.loc, loc.Bounded
  fix : ∀ fix ∈ d.fix, fix.span.Bounded

/-! ### Records of two fields -/

/-- A record of two fields is decoded in either order of the fields. -/
theorem decodeRecord_pair {α β γ : Type} (type : String) {what a b : String} {decodeA : Decoder α}
    {decodeB : Decoder β} {make : α → β → γ} {v w : Json} {x : α} {y : β} (hne : a ≠ b)
    (hv : decodeA v = .ok x) (hw : decodeB w = .ok y) :
    decodeRecord type [a, b] ((none, none) : Option α × Option β)
      (fun (x, y) name v => do
        if name = a then return (some (← decodeA v), y)
        else return (x, some (← decodeB v)))
      ignoreField
      (fun shape (x, y) => do return make (← shape.need what 0 a x) (← shape.need what 1 b y))
      (Json.object [(a, v), (b, w)]) = .ok (make x y) := by
  have hsorted : Dictionary.ofList [(a, v), (b, w)] =
      if b < a then [(b, w), (a, v)] else [(a, v), (b, w)] := by
    simp [Dictionary.ofList, Dictionary.merge, Dictionary.insert, hne.symm]
  rw [Json.object, hsorted]
  split_ifs <;>
    simp [decodeRecord, hv, hw, hne, hne.symm, Shape.need, bind, Except.bind, pure, Except.pure]

theorem Decoder.nat_sorted (n : Nat) : Decoder.nat (Json.nat n).sorted = .ok n := by
  simp [Json.nat, Json.sorted, Decoder.nat]

theorem Position.decode_sorted (p : Position) : Position.decode p.toJson.sorted = .ok p :=
  decodeRecord_pair "Position" (by decide) (Decoder.nat_sorted p.line) (Decoder.nat_sorted p.column)

theorem Span.decode_sorted (s : Span) : Span.decode s.toJson.sorted = .ok s :=
  decodeRecord_pair "Span" (by decide) (Decoder.nat_sorted s.start) (Decoder.nat_sorted s.stop)

theorem Location.decode_sorted (l : Location) : Location.decode l.toJson.sorted = .ok l :=
  decodeRecord_pair "Location" (by decide) (Position.decode_sorted l.start) (Position.decode_sorted l.stop)

theorem Fix.decode_sorted (f : Fix) : Fix.decode f.toJson.sorted = .ok f := by
  have htext : Decoder.string (.string f.text) = .ok f.text := rfl
  exact decodeRecord_pair "Fix" (by decide) (Span.decode_sorted f.span) htext

/-! ### Diagnostics -/

theorem Severity.decode_sorted (s : Severity) : Severity.decode s.toJson.sorted = .ok s := by
  cases s <;> rfl

/-- What has been left out stays away, and what is there is read. -/
theorem Decoder.option_sorted {α : Type} {decode : Decoder α} {toJson : α → Json}
    (hnull : ∀ a, (toJson a).sorted ≠ .null) (h : ∀ a, decode (toJson a).sorted = .ok a) (a : α) :
    Decoder.option decode (toJson a).sorted = .ok (some a) := by
  rw [Decoder.option]
  · rw [h]
    rfl
  · exact hnull a

namespace Diagnostic

variable (d : Diagnostic)

/-- The fields of a diagnostic in the order of their names, as they are read. -/
def ordered : List (String × Json) :=
  Json.optionalField "fix" (fun fix => fix.toJson.sorted) d.fix
  ++ Json.optionalField "loc" (fun loc => loc.toJson.sorted) d.loc
  ++ [("message", .string d.message), ("path", d.path.toJson), ("rule_id", .string d.ruleId),
    ("severity", d.severity.toJson), ("span", d.span.toJson.sorted)]

theorem ascending_ordered : Dictionary.Ascending d.ordered := by
  have hnames : (d.ordered.map (·.1)).Sublist
      (["fix"] ++ ["loc"] ++ ["message", "path", "rule_id", "severity", "span"]) := by
    simp only [ordered, List.map_append]
    exact ((Json.names_optionalField _).append (Json.names_optionalField _)).append (.refl _)
  exact List.pairwise_map.1 (List.Pairwise.sublist hnames (by decide))

theorem sorted_toJson : d.toJson.sorted = .record d.ordered := by
  have hjson : d.toJson = .record ([("path", d.path.toJson), ("rule_id", .string d.ruleId),
      ("message", .string d.message), ("span", d.span.toJson)]
      ++ Json.optionalField "loc" Location.toJson d.loc ++ [("severity", d.severity.toJson)]
      ++ Json.optionalField "fix" Fix.toJson d.fix) := rfl
  have hpath : d.path.toJson.sorted = d.path.toJson := rfl
  have hseverity : d.severity.toJson.sorted = d.severity.toJson := rfl
  rw [hjson]
  refine Json.sorted_record_of_perm d.ascending_ordered ?_
  simp only [List.map_append, List.map_cons, List.map_nil, Json.map_optionalField, hpath, hseverity,
    Json.sorted, ordered]
  rw [← Multiset.coe_eq_coe]
  simp only [← Multiset.coe_add, ← Multiset.cons_coe, Multiset.coe_nil, ← Multiset.singleton_add]
  abel

end Diagnostic

/-- Whichever of its optional fields it has, a diagnostic is decoded from its fields in order. -/
theorem Diagnostic.decode_sorted (d : Diagnostic) : Diagnostic.decode d.toJson.sorted = .ok d := by
  obtain ⟨path, ruleId, message, span, loc, severity, fix⟩ := d
  have hspan := Span.decode_sorted span
  have hseverity : Severity.decode severity.toJson = .ok severity := Severity.decode_sorted severity
  have hloc : ∀ loc : Location, Decoder.option Location.decode loc.toJson.sorted = .ok (some loc) :=
    Decoder.option_sorted (fun _ => by simp [Location.toJson, Json.sorted, Json.object])
      Location.decode_sorted
  have hfix : ∀ fix : Fix, Decoder.option Fix.decode fix.toJson.sorted = .ok (some fix) :=
    Decoder.option_sorted (fun _ => by simp [Fix.toJson, Json.sorted, Json.object]) Fix.decode_sorted
  rw [sorted_toJson]
  cases loc <;> cases fix <;>
    simp [ordered, Json.optionalField, Diagnostic.decode, decodeRecord, hspan, hseverity, hloc, hfix,
      Path.toJson, Path.decode, Decoder.string, Shape.need, Shape.optional, bind, Except.bind, pure,
      Except.pure]

theorem Diagnostic.decode_list (ds : List Diagnostic) :
    Decoder.list Diagnostic.decode (Json.ofList Diagnostic.toJson ds).sorted = .ok ds := by
  rw [Json.ofList, Json.sorted, Json.sortedItems_eq, Decoder.list]
  induction ds with
  | nil => rfl
  | cons d ds ih =>
    rw [List.map_cons, List.map_cons, List.mapM_cons, Diagnostic.decode_sorted, ih]
    rfl

/-! ### Reading a report -/

theorem Json.integral_nat {n : Nat} (h : n < 2 ^ 64) : (Json.nat n).Integral :=
  .number (by omega) (by omega)

theorem Span.Bounded.integral {s : Span} (h : s.Bounded) : s.toJson.Integral :=
  .record (by simp [Json.integral_nat h.1, Json.integral_nat h.2])

theorem Position.Bounded.integral {p : Position} (h : p.Bounded) : p.toJson.Integral :=
  .record (by simp [Json.integral_nat h.1, Json.integral_nat h.2])

theorem Location.Bounded.integral {l : Location} (h : l.Bounded) : l.toJson.Integral :=
  .record (by simp [h.1.integral, h.2.integral])

theorem Diagnostic.Bounded.integral {d : Diagnostic} (h : d.Bounded) : d.toJson.Integral := by
  refine .record fun a ha => ?_
  simp only [List.mem_append, List.mem_cons, List.not_mem_nil, or_false, Option.mem_toList,
    Option.map_eq_some_iff] at ha
  rcases ha with (((rfl | rfl | rfl | rfl) | ⟨loc, hloc, rfl⟩) | rfl) | ⟨fix, hfix, rfl⟩
  · exact .string _
  · exact .string _
  · exact .string _
  · exact h.span.integral
  · exact (h.loc loc hloc).integral
  · exact .string _
  · exact .record (by simp [(h.fix fix hfix).integral, Json.Integral.string])

/-- The report in the format `json` is standard JSON. In the value that it is read as, by a reader of
    the standard or by the relaxed one, the failures are found again. -/
theorem decode_render_json {failures : List Diagnostic} (h : ∀ d ∈ failures, d.Bounded)
    (fixes : List Diagnostic) :
    ∃ v, Json.Standard.parse? (Format.json.render failures fixes) = some v ∧
      Json.read? (Format.json.render failures fixes) = .ok (some v) ∧
      Decoder.list Diagnostic.decode v = .ok failures := by
  have hintegral : (Json.ofList Diagnostic.toJson failures).Integral := by
    refine .array fun v hv => ?_
    obtain ⟨d, hd, rfl⟩ := List.mem_map.1 hv
    exact (h d hd).integral
  exact ⟨_, Json.Standard.parse?_compact hintegral, Json.read?_compact hintegral,
    Diagnostic.decode_list failures⟩

/-- A failure with a fix and no location, in a path and with a message that have to be escaped. -/
def escapedFailure : Diagnostic where
  path := ⟨"a \"b\".ts"⟩
  ruleId := "no-tab"
  message := "\t\x00 \\ é"
  span := ⟨0, 18446744073709551615⟩
  loc := none
  severity := .warning
  fix := some ⟨⟨0, 1⟩, "\n"⟩

theorem bounded_escapedFailure : escapedFailure.Bounded where
  span := ⟨by decide, by decide⟩
  loc := by simp [escapedFailure]
  fix := by simp [escapedFailure, Span.Bounded]

theorem decode_render_escapedFailure :
    (∀ d ∈ [escapedFailure], d.Bounded) ∧
    ∃ v, Json.Standard.parse? (Format.json.render [escapedFailure] []) = some v ∧
      Json.read? (Format.json.render [escapedFailure] []) = .ok (some v) ∧
      Decoder.list Diagnostic.decode v = .ok [escapedFailure] := by
  have hbounded : ∀ d ∈ [escapedFailure], d.Bounded :=
    List.forall_mem_singleton.2 bounded_escapedFailure
  exact ⟨hbounded, decode_render_json hbounded []⟩

end Autofix
