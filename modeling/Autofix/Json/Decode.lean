import Autofix.Json.Printer

/-!
# Reading records from JSON

A value of a domain type is read from a JSON value by a *decoder*, which says what it found and what
it expected where the two do not fit.

A record may be written as an object or as an array of its fields in their order (`Shape`). In an
object the fields are looked at in the order of the object, so that of two faults the first one in
that order is reported, and a missing field only after all that are there.
-/

namespace Autofix

/-- Why a JSON value is not the value of a type. -/
inductive DecodeError where
  /-- A value of another type. -/
  | wrongType (found expected : String)
  /-- A value of the right type outside the range. -/
  | wrongValue (found expected : String)
  | wrongLength (length : Nat) (expected : String)
  | missingField (name : String)
  | unknownField (name : String) (known : List String)
  | unknownVariant (name : String) (known : List String)
  /-- A value that is none of the alternatives of a type. -/
  | noVariant (type : String)
  deriving DecidableEq, Repr

namespace DecodeError

/-- A choice of names, each in backquotes. -/
def choice : List String → String
  | [] => "nothing"
  | [a] => "\x60" ++ a ++ "\x60"
  | [a, b] => "\x60" ++ a ++ "\x60 or \x60" ++ b ++ "\x60"
  | names => "one of " ++ ", ".intercalate (names.map fun a => "\x60" ++ a ++ "\x60")

def message : DecodeError → String
  | .wrongType found expected => s!"invalid type: {found}, expected {expected}"
  | .wrongValue found expected => s!"invalid value: {found}, expected {expected}"
  | .wrongLength length expected => s!"invalid length {length}, expected {expected}"
  | .missingField name => s!"missing field \x60{name}\x60"
  | .unknownField name known => s!"unknown field \x60{name}\x60, expected {choice known}"
  | .unknownVariant name known => s!"unknown variant \x60{name}\x60, expected {choice known}"
  | .noVariant type => s!"data did not match any variant of untagged enum {type}"

end DecodeError

/-- Reads a value of a type. -/
abbrev Decoder (α : Type) := Json → Except DecodeError α

namespace Json

/-- What a value is, as a message says it. -/
def description : Json → String
  | .null => "null"
  | .bool b => s!"boolean \x60{b}\x60"
  | .number (.integer i) => s!"integer \x60{i}\x60"
  | .number (.double x) => s!"floating point \x60{(Number.double x).text}\x60"
  | .string s => s!"string {Text.quoted s}"
  | .array _ => "sequence"
  | .record _ => "map"

def wrongType {α : Type} (v : Json) (expected : String) : Except DecodeError α :=
  .error (.wrongType v.description expected)

end Json

namespace Decoder

def string : Decoder String
  | .string s => .ok s
  | v => v.wrongType "a string"

def bool : Decoder Bool
  | .bool b => .ok b
  | v => v.wrongType "a boolean"

/-- A size or an offset: an integer that is not negative. -/
def nat : Decoder Nat
  | .number (.integer i) =>
    if 0 ≤ i then .ok i.toNat
    else .error (.wrongValue (Json.number (.integer i)).description "usize")
  | v => v.wrongType "usize"

def list {α : Type} (item : Decoder α) : Decoder (List α)
  | .array items => items.mapM item
  | v => v.wrongType "a sequence"

/-- Null, or a value. -/
def option {α : Type} (inner : Decoder α) : Decoder (Option α)
  | .null => .ok none
  | v => (inner v).map some

end Decoder

/-- How a record was written. -/
inductive Shape where
  | object
  | array

namespace Shape

/-- A field that has to be there. `what` names the type and says how many fields it has. -/
def need {α : Type} (shape : Shape) (what : String) (index : Nat) (name : String) :
    Option α → Except DecodeError α
  | some a => .ok a
  | none => match shape with
    | .object => .error (.missingField name)
    | .array => .error (.wrongLength index what)

/-- A field that an object may leave out, and an array only by a null. -/
def optional {α : Type} (shape : Shape) (what : String) (index : Nat) :
    Option (Option α) → Except DecodeError (Option α)
  | some a => .ok a
  | none => match shape with
    | .object => .ok none
    | .array => .error (.wrongLength index what)

end Shape

/-- Reads a record. `names` are its fields in order; `take` reads one field into what is known of
    the record so far, and `finish` makes the record once all fields have been looked at. Fields of
    other names go to `other`. -/
def decodeRecord {σ α : Type} (type : String) (names : List String) (start : σ)
    (take : σ → String → Json → Except DecodeError σ)
    (other : String → Except DecodeError Unit)
    (finish : Shape → σ → Except DecodeError α) : Decoder α
  | .record fields => do
    let known ← fields.foldlM (fun known (name, v) =>
      if names.contains name then take known name v
      else do other name; return known) start
    finish .object known
  | .array items => do
    let known ← (names.zip items).foldlM (fun known (name, v) => take known name v) start
    let a ← finish .array known
    if items.length > names.length then
      .error (.wrongLength items.length "fewer elements in array")
    else return a
  | v => v.wrongType ("struct " ++ type)

/-- Lets fields of other names pass. -/
def ignoreField (_ : String) : Except DecodeError Unit := .ok ()

/-- Refuses fields of other names. -/
def refuseField (names : List String) (name : String) : Except DecodeError Unit :=
  .error (.unknownField name names)

end Autofix
