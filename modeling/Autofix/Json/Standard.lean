import Autofix.Json.Reader

/-!
# Standard JSON

A reader of JSON as the standard has it, with none of the liberties of the relaxed one: blanks are
spaces, tabs and line ends, commas stand between items and nowhere else, strings stand between
double quotes and hold no bare controls, and a number has no sign `+` and is not hexadecimal.

* `Json.Standard.tree?` reads a text; fields are kept as they are written, in their order.
-/

namespace Autofix.Json.Standard

def isBlank (c : Char) : Bool := c = ' ' || c = '\t' || c = '\n' || c = '\r'

/-- What follows a character, with blanks in front of it. -/
def after? (c : Char) (cs : List Char) : Option (List Char) :=
  match cs.dropWhile isBlank with
  | d :: rest => if d = c then some rest else none
  | [] => none

/-- What follows a keyword. -/
def word? (word : String) (cs : List Char) : Option (List Char) :=
  if word.toList.isPrefixOf cs then some (cs.drop word.length) else none

/-- The rest of a string, up to its closing quote; `seen` is what it holds so far, last character
    first. The fuel bounds the characters read. -/
def stringRest : Nat → List Char → List Char → Option (String × List Char)
  | 0, _, _ => none
  | _ + 1, _, [] => none
  | fuel + 1, seen, c :: rest =>
    if c = '"' then some (String.ofList seen.reverse, rest)
    else if c = '\\' then
      match escape '"' 0 rest with
      | .ok (e, rest) => stringRest fuel (e :: seen) rest
      | .error _ => none
    else if c.toNat < 32 then none
    else stringRest fuel (c :: seen) rest

def string? (cs : List Char) : Option (String × List Char) := do
  let rest ← after? '"' cs
  stringRest (rest.length + 1) [] rest

def number? (cs : List Char) : Option (Json × List Char) :=
  let (sign, body) := if cs.head? = some '-' then (['-'], cs.tail) else ([], cs)
  match unsigned 0 body with
  | .error _ => none
  | .ok (digits, rest) =>
    if digits.any fun c => c = 'x' || c = 'X' then none
    else match ofNumberText (String.ofList (sign ++ digits)) with
      | .number n => some (.number n, rest)
      | _ => none

/-- A value that is neither an array nor an object. -/
def scalar? (cs : List Char) : Option (Json × List Char) :=
  ((string? cs).map fun (s, rest) => (.string s, rest))
    <|> ((word? "null" cs).map fun rest => (.null, rest))
    <|> ((word? "true" cs).map fun rest => (.bool true, rest))
    <|> ((word? "false" cs).map fun rest => (.bool false, rest))
    <|> number? cs

mutual

/-- The value at the start of a text, with what follows it. -/
def value : Nat → List Char → Option (Json × List Char)
  | 0, _ => none
  | fuel + 1, cs =>
    match after? '[' cs, after? '\x7b' cs with
    | some rest, _ =>
      match after? ']' rest with
      | some rest => some (.array [], rest)
      | none => (items fuel rest).map fun (items, rest) => (.array items, rest)
    | _, some rest =>
      match after? '\x7d' rest with
      | some rest => some (.record [], rest)
      | none => (fields fuel rest).map fun (fields, rest) => (.record fields, rest)
    | none, none => scalar? (cs.dropWhile isBlank)

/-- The items of an array, of which there is one at least, up to the closing bracket. -/
def items : Nat → List Char → Option (List Json × List Char)
  | 0, _ => none
  | fuel + 1, cs => do
    let (v, rest) ← value fuel cs
    match after? ',' rest with
    | some rest => (items fuel rest).map fun (more, rest) => (v :: more, rest)
    | none => (after? ']' rest).map fun rest => ([v], rest)

/-- The fields of an object, of which there is one at least, up to the closing brace. -/
def fields : Nat → List Char → Option (List (String × Json) × List Char)
  | 0, _ => none
  | fuel + 1, cs => do
    let (name, rest) ← string? cs
    let (v, rest) ← value fuel (← after? ':' rest)
    match after? ',' rest with
    | some rest => (fields fuel rest).map fun (more, rest) => ((name, v) :: more, rest)
    | none => (after? '\x7d' rest).map fun rest => ([(name, v)], rest)

end

/-- The value of a text, if it is standard JSON. Each object has the fields that are written, in the
    order of the text. -/
def tree? (text : String) : Option Json := do
  let (v, rest) ← value (text.toList.length + 1) text.toList
  if rest.all isBlank then some v else none

end Autofix.Json.Standard
