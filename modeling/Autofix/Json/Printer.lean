import Autofix.Json.Value
import Autofix.Text.Quoted

/-!
# Writing JSON

The compact form: no blanks between tokens, fields in their order, and in strings only what has to
be escaped.
-/

namespace Autofix.Json

/-- One character of a string: quotes, backslashes and controls are escaped. -/
def escaped (c : Char) : List Char :=
  if c = '"' then ['\\', '"']
  else if c = '\\' then ['\\', '\\']
  else if c = '\x08' then ['\\', 'b']
  else if c = '\t' then ['\\', 't']
  else if c = '\n' then ['\\', 'n']
  else if c = '\x0c' then ['\\', 'f']
  else if c = '\r' then ['\\', 'r']
  else if c.toNat < 16 then ['\\', 'u', '0', '0', '0'] ++ Text.hexDigits c.toNat
  else if c.toNat < 32 then ['\\', 'u', '0', '0'] ++ Text.hexDigits c.toNat
  else [c]

def stringChars (s : String) : List Char :=
  ['"'] ++ s.toList.flatMap escaped ++ ['"']

mutual

/-- The compact form of a value. -/
def chars : Json → List Char
  | .null => ['n', 'u', 'l', 'l']
  | .bool true => ['t', 'r', 'u', 'e']
  | .bool false => ['f', 'a', 'l', 's', 'e']
  | .number n => n.text.toList
  | .string s => stringChars s
  | .array items => ['['] ++ itemsChars items ++ [']']
  | .record fields => ['\x7b'] ++ fieldsChars fields ++ ['\x7d']

/-- The items of an array, with commas between them. -/
def itemsChars : List Json → List Char
  | [] => []
  | [item] => chars item
  | item :: rest => chars item ++ [','] ++ itemsChars rest

/-- The fields of an object, with commas between them. -/
def fieldsChars : List (String × Json) → List Char
  | [] => []
  | [(name, value)] => stringChars name ++ [':'] ++ chars value
  | (name, value) :: rest => stringChars name ++ [':'] ++ chars value ++ [','] ++ fieldsChars rest

end

/-- The compact text of a value. -/
def compact (v : Json) : String := String.ofList v.chars

end Autofix.Json
