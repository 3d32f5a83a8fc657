import Autofix.Decimal.Shortest
import Autofix.Dictionary

/-!
# JSON values

A value as a document writes it. The fields of an object keep an order: `Json.object` gives the
order of the names by code points, in which each name stands once, and records are written in the
order of their declaration.
-/

namespace Autofix

open Decimal

/-- A number: an integer of 64 bits, with or without sign, or a double. -/
inductive Number where
  | integer (i : Int)
  | double (x : Double)
  deriving DecidableEq, Repr, Inhabited

inductive Json where
  | null
  | bool (b : Bool)
  | number (n : Number)
  | string (s : String)
  | array (items : List Json)
  | record (fields : List (String × Json))
  deriving Repr, Inhabited

/-- Numbers have the shortest digits; below `10 ^ -5` and from `10 ^ 16` on there is an exponent,
    which always has a sign. -/
def Number.layout : Layout := ⟨-5, 15, "+"⟩

def Number.text : Number → String
  | .integer i => toString i
  | .double x => x.write Number.layout

namespace Json

/-- The object with the given fields, the last one winning where a name stands twice. -/
def object (fields : List (String × Json)) : Json :=
  .record (Dictionary.ofList fields)

/-- The value of a field of an object. -/
def field? (name : String) : Json → Option Json
  | .record fields => fields.lookup name
  | _ => none

def asString? : Json → Option String
  | .string s => some s
  | _ => none

def nat (n : Nat) : Json := .number (.integer n)

def ofList {α : Type} (toJson : α → Json) (as : List α) : Json := .array (as.map toJson)

end Json

end Autofix
