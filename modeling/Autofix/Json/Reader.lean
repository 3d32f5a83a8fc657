import Autofix.Json.Token

/-!
# Reading relaxed JSON

Values are built from the tokens of a text. A comma between fields or items may be missing, and one
may stand before the closing bracket. A field name is a string, a bare word or a number.

* `Json.read?` reads a text: no value when it holds only blanks and comments, else one value;
* `Flaw.message` says what is wrong and on which line and in which column.
-/

namespace Autofix.Json

open Decimal

/-- A fault with its place: a line and a column, both counted from one, columns in characters. -/
structure Flaw where
  fault : Fault
  line : Nat
  column : Nat
  deriving DecidableEq, Repr

def Flaw.message (f : Flaw) : String :=
  s!"{f.fault.message} on line {f.line} column {f.column}"

/-! ### Numbers -/

/-- Reads digits while the number stays below `2 ^ 64`, and returns the digits that are left. -/
def significand (n : Nat) : List Char → Nat × List Char
  | [] => (n, [])
  | d :: ds =>
    let m := n * 10 + (d.toNat - 48)
    if m < Nat.pow 2 64 then significand m ds else (n, d :: ds)

/-- The number of a decimal with a whole part, an optional fraction and an optional exponent.
    Without these it is an integer as long as it fits 64 bits, except that there is no integer minus
    zero. Digits past the first 64 bits count for their place only. None if the number is too
    large. -/
def decimalNumber? (negative : Bool) (whole : List Char) (fraction : Option (List Char))
    (power : Option Int) : Option Number := do
  let signed := fun (x : Double) => Number.double (if negative then x.neg else x)
  let (n, left) := significand 0 whole
  if left = [] ∧ fraction = none ∧ power = none ∧ (!negative ∨ (0 < n ∧ n ≤ Nat.pow 2 63)) then
    return .integer (if negative then -(n : Int) else n)
  let (n, scale) := match fraction with
    | none => (n, (left.length : Int))
    | some ds =>
      let (n, rest) := significand n ds
      (n, (left.length : Int) - ((ds.length - rest.length : Nat) : Int))
  let power := power.getD 0
  if power > 2147483647 then
    if n = 0 then return signed .zero else none
  else if power < -2147483647 then return signed .zero
  else return signed (← Double.ofScaled n (scale + power))

/-- The number that a token writes. One that no number represents is kept as a string: a hexadecimal
    above `2 ^ 63`, a decimal beyond the range of doubles. -/
def ofNumberText (text : String) : Json :=
  let cs := text.toList
  let negative := cs.head? = some '-'
  let body := cs.dropWhile fun c => c = '-' || c = '+'
  match body with
  | '0' :: x :: hex =>
    if x = 'x' ∨ x = 'X' then
      let n := hexNumber hex
      if n < Nat.pow 2 63 then .number (.integer (if negative then -(n : Int) else n))
      else .string text
    else decimal negative body text
  | _ => decimal negative body text
where
  /-- A decimal, cut into its parts. -/
  decimal (negative : Bool) (body : List Char) (text : String) : Json :=
    let (whole, rest) := digits body
    let (fraction, rest) : Option (List Char) × List Char := match rest with
      | '.' :: rest => let (ds, rest) := digits rest; (some ds, rest)
      | _ => (none, rest)
    let number (ds : List Char) : Nat := ds.foldl (fun n d => n * 10 + (d.toNat - 48)) 0
    let power : Option Int := match rest with
      | _ :: '-' :: ds => some (-(number ds : Int))
      | _ :: '+' :: ds => some (number ds)
      | _ :: ds => some (number ds)
      | [] => none
    match decimalNumber? negative whole fraction power with
    | some n => .number n
    | none => .string text

/-! ### Values -/

/-- A fault at a place. -/
abbrev Bad := Nat × Fault

/-- Reads past the end of the tokens: the fault of the text, or else the one given. -/
def atEnd {α : Type} (tail : Tail) (fault : Nat → Bad) : Except Bad α :=
  match tail with
  | .fault place f => .error (place, f)
  | .done place => .error (fault place)

mutual

/-- The value that starts at the first token; `missing` is the fault when there is no token. -/
def value (tail : Tail) (missing : Nat → Bad) :
    Nat → List (Nat × Token) → Except Bad (Json × List (Nat × Token))
  | 0, _ => atEnd tail missing
  | _ + 1, [] => atEnd tail missing
  | fuel + 1, (place, t) :: rest =>
    match t with
    | .openBrace => do
      let (fields, rest) ← fields tail place fuel rest
      return (object fields, rest)
    | .openBracket => do
      let (items, rest) ← items tail place fuel rest
      return (.array items, rest)
    | .string s => .ok (.string s, rest)
    | .number s => .ok (ofNumberText s, rest)
    | .bool b => .ok (.bool b, rest)
    | .null => .ok (.null, rest)
    | .closeBracket => .error (place, .unexpectedCloseBracket)
    | .closeBrace => .error (place, .unexpectedCloseBrace)
    | .comma => .error (place, .unexpectedComma)
    | .colon => .error (place, .unexpectedColon)
    | .word _ => .error (place, .unexpectedWord)

/-- The fields of the object that starts at `start`, up to its closing brace. -/
def fields (tail : Tail) (start : Nat) :
    Nat → List (Nat × Token) → Except Bad (List (String × Json) × List (Nat × Token))
  | 0, _ => .error (start, .unterminatedObject)
  | _ + 1, [] => atEnd tail fun _ => (start, .unterminatedObject)
  | fuel + 1, (place, t) :: rest =>
    match t with
    | .closeBrace => .ok ([], rest)
    | .string name | .word name | .number name =>
      match rest with
      | [] => atEnd tail fun finish => (finish, .expectedColon)
      | (_, .colon) :: rest => do
        let (v, rest) ← value tail (fun finish => (finish, .expectedFieldValue)) fuel rest
        let rest := match rest with
          | (_, .comma) :: rest => rest
          | _ => rest
        let (more, rest) ← fields tail start fuel rest
        return ((name, v) :: more, rest)
      | (place, _) :: _ => .error (place, .expectedColon)
    | _ => .error (place, .unexpectedTokenInObject)

/-- The items of the array that starts at `start`, up to its closing bracket. -/
def items (tail : Tail) (start : Nat) :
    Nat → List (Nat × Token) → Except Bad (List Json × List (Nat × Token))
  | 0, _ => .error (start, .unterminatedArray)
  | _ + 1, [] => atEnd tail fun _ => (start, .unterminatedArray)
  | fuel + 1, (place, t) :: rest =>
    match t with
    | .closeBracket => .ok ([], rest)
    | _ => do
      let (v, rest) ← value tail (fun _ => (start, .unterminatedArray)) fuel ((place, t) :: rest)
      let rest := match rest with
        | (_, .comma) :: rest => rest
        | _ => rest
      let (more, rest) ← items tail start fuel rest
      return (v :: more, rest)

end

/-- The line and column of a place, both counted from one. -/
def lineColumn (cs : List Char) (place : Nat) : Nat × Nat :=
  let before := cs.take place
  (before.count '\n' + 1, (before.reverse.takeWhile (· ≠ '\n')).length + 1)

/-- The value of a text, or none for a text without tokens. -/
def readTokens (ts : Tokens) : Except Bad (Option Json) :=
  match ts.list, ts.tail with
  | [], .done _ => .ok none
  | [], .fault place f => .error (place, f)
  | list, tail => do
    let (v, rest) ← value tail (fun finish => (finish, .unexpectedToken)) (2 * list.length + 2) list
    match rest, tail with
    | (place, _) :: _, _ => .error (place, .severalValues)
    | [], .fault place f => .error (place, f)
    | [], .done _ => .ok (some v)

/-- Reads a text of relaxed JSON: no value when it holds only blanks and comments, else one. -/
def read? (text : String) : Except Flaw (Option Json) :=
  let cs := text.toList
  match readTokens (tokens cs) with
  | .ok v => .ok v
  | .error (place, fault) =>
    let (line, column) := lineColumn cs place
    .error ⟨fault, line, column⟩

end Autofix.Json
