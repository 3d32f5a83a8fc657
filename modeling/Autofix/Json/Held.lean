import Autofix.Json.Standard

/-!
# Held texts

Where a value of any kind is taken over, an object can stand for another value: if its first field
has a name that is kept for this, it is to have no other field, and a string which holds the text of
that value in standard JSON. In the text objects may hold texts in their turn; there the first field
is the one that is written first.

* `Json.unwrapped?` puts what is held in the place of the objects that hold it, at any depth.
-/

namespace Autofix.Json

/-- The name of the field that holds a text. -/
def heldName : String := "$serde_json::private::RawValue"

/-- Whether an object is to hold a text. -/
def isHolder (fields : List (String × Json)) : Bool :=
  fields.head?.any fun field => field.1 = heldName

/-- The text that an object holds. -/
def heldText? : List (String × Json) → Option String
  | [(_, .string text)] => some text
  | _ => none

mutual

/-- A value with what is held in the place of the objects that hold it; `read` reads a text. -/
def unwrap (read : String → Option Json) : Json → Option Json
  | .array items => (unwrapItems read items).map .array
  | .record fields =>
    match isHolder fields with
    | true => (heldText? fields).bind read
    | false => (unwrapFields read fields).map object
  | v => some v

def unwrapItems (read : String → Option Json) : List Json → Option (List Json)
  | [] => some []
  | v :: items => do return (← unwrap read v) :: (← unwrapItems read items)

def unwrapFields (read : String → Option Json) :
    List (String × Json) → Option (List (String × Json))
  | [] => some []
  | (name, v) :: fields => do return (name, ← unwrap read v) :: (← unwrapFields read fields)

end

mutual

/-- How deep arrays and objects are nested in a value. -/
def depth : Json → Nat
  | .array items => itemsDepth items + 1
  | .record fields => fieldsDepth fields + 1
  | _ => 0

def itemsDepth : List Json → Nat
  | [] => 0
  | v :: items => max v.depth (itemsDepth items)

def fieldsDepth : List (String × Json) → Nat
  | [] => 0
  | (_, v) :: fields => max v.depth (fieldsDepth fields)

end

/-- How deep arrays and objects may be nested in a text that is held. -/
def depthLimit : Nat := 127

/-- Reads a text that is held. The fuel bounds how often a text is held in another one, which is
    longer. -/
def readHeld : Nat → String → Option Json
  | 0, _ => none
  | fuel + 1, text => do
    let v ← Standard.tree? text
    if v.depth ≤ depthLimit then unwrap (readHeld fuel) v else none

/-- A value with what is held in the place of the objects that hold it, if all of it can be read. -/
def unwrapped? (v : Json) : Option Json :=
  unwrap (fun text => readHeld (text.length + 1) text) v

end Autofix.Json
