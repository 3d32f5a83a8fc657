import Autofix.Json.Printer

/-!
# Schemas

A schema says which JSON values a document may hold. `Schema.violation?` is the first fault of a
value, fields and items taken in their order; there is none exactly if the schema allows the value.
`Schema.config` is the schema of lint configurations.
-/

namespace Autofix

inductive Schema where
  | boolean
  | string
  /-- One of the given strings. -/
  | word (words : List String)
  | array (items : Schema)
  /-- What one of several schemas allows that exclude one another. -/
  | choice (options : List Schema)
  /-- An object with the given fields, which it may leave out, and no others. -/
  | closed (fields : List (String × Schema))
  /-- An object with the given fields, which it may leave out, and others with any value. -/
  | opened (fields : List (String × Schema))
  /-- An object with any fields, whose values have a schema in common. -/
  | dictionary (values : Schema)
  deriving Repr, Inhabited

namespace Schema

inductive Fault where
  | wrongType (found : Json) (expected : String)
  | noWord (found : Json) (words : List String)
  | noChoice (found : Json)
  | unexpectedField (name : String)
  deriving Repr

def Fault.message : Fault → String
  | .wrongType found expected => s!"{found.compact} is not of type \"{expected}\""
  | .noWord found words =>
    let choice := ", ".intercalate (words.map fun w => (Json.string w).compact)
    s!"{found.compact} is not one of {choice}"
  | .noChoice found =>
    s!"{found.compact} is not valid under any of the schemas listed in the 'oneOf' keyword"
  | .unexpectedField name => s!"Additional properties are not allowed ('{name}' was unexpected)"

/-- A fault and the names and numbers that lead to it from the top of the document. -/
structure Violation where
  fault : Fault
  place : List String
  deriving Repr

namespace Violation

/-- A step of a pointer into a document; `/` and `~` are escaped in names. -/
def step (name : String) : String :=
  "/" ++ String.ofList (name.toList.flatMap fun c =>
    if c = '~' then ['~', '0'] else if c = '/' then ['~', '1'] else [c])

def pointer (v : Violation) : String := String.join (v.place.map step)

def message (v : Violation) : String := s!"{v.fault.message} at {v.pointer}"

/-- The violation as seen from one level further up. -/
def under (name : String) (v : Violation) : Violation := { v with place := name :: v.place }

end Violation

/-- The first violation among items, the first of which has the number `index`. -/
def firstItem? (violation? : Json → Option Violation) : Nat → List Json → Option Violation
  | _, [] => none
  | index, item :: rest =>
    match violation? item with
    | some v => some (v.under (toString index))
    | none => firstItem? violation? (index + 1) rest

/-- The first violation among fields. -/
def firstField? (violation? : String → Json → Option Violation) :
    List (String × Json) → Option Violation
  | [] => none
  | (name, value) :: rest =>
    match violation? name value with
    | some v => some v
    | none => firstField? violation? rest

mutual

def violation? : Schema → Json → Option Violation
  | .boolean, v => match v with
    | .bool _ => none
    | v => some ⟨.wrongType v "boolean", []⟩
  | .string, v => match v with
    | .string _ => none
    | v => some ⟨.wrongType v "string", []⟩
  | .word words, v => match v with
    | .string s => if words.contains s then none else some ⟨.noWord (.string s) words, []⟩
    | v => some ⟨.wrongType v "string", []⟩
  | .array s, v => match v with
    | .array items => firstItem? (violation? s) 0 items
    | v => some ⟨.wrongType v "array", []⟩
  | .choice options, v => if anyAllows options v then none else some ⟨.noChoice v, []⟩
  | .closed fields, v => match v with
    | .record entries =>
      firstField? (fun name v =>
        (fieldViolation? fields name v).getD (some ⟨.unexpectedField name, []⟩)) entries
    | v => some ⟨.wrongType v "object", []⟩
  | .opened fields, v => match v with
    | .record entries =>
      firstField? (fun name v => (fieldViolation? fields name v).getD none) entries
    | v => some ⟨.wrongType v "object", []⟩
  | .dictionary s, v => match v with
    | .record entries =>
      firstField? (fun name v => (violation? s v).map (Violation.under name)) entries
    | v => some ⟨.wrongType v "object", []⟩

/-- Whether one of several schemas allows a value. -/
def anyAllows : List Schema → Json → Bool
  | [], _ => false
  | s :: rest, v => (violation? s v).isNone || anyAllows rest v

/-- The violation in a field, if the schema knows a field of that name. -/
def fieldViolation? :
    List (String × Schema) → String → Json → Option (Option Violation)
  | [], _, _ => none
  | (known, s) :: rest, name, v =>
    if known = name then some ((violation? s v).map (Violation.under name))
    else fieldViolation? rest name v

end

/-- Whether a schema allows a value. -/
def allows (s : Schema) (v : Json) : Bool := (s.violation? v).isNone

/-! ### Lint configurations -/

/-- The words for the severity of a rule. -/
def severityWords : List String := ["error", "warning", "warn", "off"]

/-- The options of a rule. -/
def ruleOptions : Schema :=
  .opened [("severity", .word severityWords), ("pattern", .string), ("replacement", .string),
    ("message", .string)]

/-- The setting of a rule. -/
def ruleSetting : Schema := .choice [.boolean, .word severityWords, ruleOptions]

def config : Schema :=
  .closed [("$schema", .string), ("extends", .choice [.string, .array .string]),
    ("rules", .dictionary ruleSetting), ("exclude", .array .string)]

end Schema

end Autofix
