import Autofix.Json.Held
import Autofix.Proofs.Json.Ordered

/-!
# Values that hold no texts

Where no object starts with the field for held texts (`Json.Plain`), a value is taken over as it is
(`unwrapped?_of_plain`). In any case the fields of what is taken over are in order
(`ordered_of_unwrapped?`).
-/

namespace Autofix.Json

/-- No object in a value is to hold a text. -/
inductive Plain : Json → Prop
  | null : Plain .null
  | bool (b : Bool) : Plain (.bool b)
  | number (n : Number) : Plain (.number n)
  | string (s : String) : Plain (.string s)
  | array {items : List Json} (h : ∀ v ∈ items, Plain v) : Plain (.array items)
  | record {fields : List (String × Json)} (hnot : isHolder fields = false)
      (h : ∀ a ∈ fields, Plain a.2) : Plain (.record fields)

variable {read : String → Option Json} {v w : Json}

/-! ### Nothing is held -/

theorem unwrapItems_eq_self {items : List Json} (h : ∀ v ∈ items, unwrap read v = some v) :
    unwrapItems read items = some items := by
  induction items with
  | nil => rfl
  | cons v items ih =>
    obtain ⟨hv, hitems⟩ := List.forall_mem_cons.1 h
    rw [unwrapItems, hv, ih hitems]
    rfl

theorem unwrapFields_eq_self {fields : List (String × Json)}
    (h : ∀ a ∈ fields, unwrap read a.2 = some a.2) : unwrapFields read fields = some fields := by
  induction fields with
  | nil => rfl
  | cons a fields ih =>
    obtain ⟨ha, hfields⟩ := List.forall_mem_cons.1 h
    rw [unwrapFields, ha, ih hfields]
    rfl

/-- A value in which nothing is held is taken over as it is, if its fields are in order. -/
theorem unwrap_of_plain (hv : v.Plain) (hordered : v.Ordered) : unwrap read v = some v := by
  induction hv with
  | null | bool | number | string => rfl
  | array _ ih =>
    cases hordered with
    | array hitems =>
      rw [unwrap, unwrapItems_eq_self fun v hv => ih v hv (hitems v hv)]
      rfl
  | record hnot _ ih =>
    cases hordered with
    | record hnames hfields =>
      rw [unwrap, hnot, unwrapFields_eq_self fun a ha => ih a ha (hfields a ha)]
      exact congrArg (fun fields => some (record fields)) hnames.ofList_eq

theorem unwrapped?_of_plain (hv : v.Plain) (hordered : v.Ordered) : v.unwrapped? = some v :=
  unwrap_of_plain hv hordered

/-! ### The order of fields -/

mutual

/-- What is taken over has its fields in order, if what is read for held texts has. -/
theorem ordered_of_unwrap (hread : ∀ text w, read text = some w → w.Ordered) :
    ∀ {v w : Json}, unwrap read v = some w → w.Ordered
  | .null, _, h => Option.some.inj h ▸ .null
  | .bool b, _, h => Option.some.inj h ▸ .bool b
  | .number n, _, h => Option.some.inj h ▸ .number n
  | .string s, _, h => Option.some.inj h ▸ .string s
  | .array items, w, h => by
    obtain ⟨ws, hws, rfl⟩ := Option.map_eq_some_iff.1 h
    exact .array (ordered_of_unwrapItems hread hws)
  | .record fields, w, h => by
    rw [unwrap] at h
    split at h
    · obtain ⟨text, -, htext⟩ := Option.bind_eq_some_iff.1 h
      exact hread text w htext
    · obtain ⟨fs, hfs, rfl⟩ := Option.map_eq_some_iff.1 h
      exact ordered_object (ordered_of_unwrapFields hread hfs)

theorem ordered_of_unwrapItems (hread : ∀ text w, read text = some w → w.Ordered) :
    ∀ {items ws : List Json}, unwrapItems read items = some ws → ∀ w ∈ ws, w.Ordered
  | [], _, h => Option.some.inj h ▸ fun _ hw => absurd hw List.not_mem_nil
  | v :: items, ws, h => by
    obtain ⟨w, hw, h⟩ := Option.bind_eq_some_iff.1 h
    obtain ⟨ws, hws, h⟩ := Option.bind_eq_some_iff.1 h
    obtain rfl := Option.some.inj h
    exact List.forall_mem_cons.2 ⟨ordered_of_unwrap hread hw, ordered_of_unwrapItems hread hws⟩

theorem ordered_of_unwrapFields (hread : ∀ text w, read text = some w → w.Ordered) :
    ∀ {fields fs : List (String × Json)}, unwrapFields read fields = some fs →
      ∀ a ∈ fs, a.2.Ordered
  | [], _, h => Option.some.inj h ▸ fun _ ha => absurd ha List.not_mem_nil
  | (name, v) :: fields, fs, h => by
    obtain ⟨w, hw, h⟩ := Option.bind_eq_some_iff.1 h
    obtain ⟨fs, hfs, h⟩ := Option.bind_eq_some_iff.1 h
    obtain rfl := Option.some.inj h
    exact List.forall_mem_cons.2 ⟨ordered_of_unwrap hread hw, ordered_of_unwrapFields hread hfs⟩

end

theorem ordered_of_readHeld {fuel : ℕ} {text : String} (h : readHeld fuel text = some w) :
    w.Ordered := by
  induction fuel generalizing text w with
  | zero => cases h
  | succ fuel ih =>
    obtain ⟨v, -, h⟩ := Option.bind_eq_some_iff.1 h
    split_ifs at h
    exact ordered_of_unwrap (fun _ _ => ih) h

/-- What is taken over has its fields in order. -/
theorem ordered_of_unwrapped? (h : v.unwrapped? = some w) : w.Ordered :=
  ordered_of_unwrap (fun _ _ => ordered_of_readHeld) h

end Autofix.Json
