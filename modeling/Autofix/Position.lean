import Autofix.Text
import Autofix.Json.Decode

/-!
# Positions

Where something is in a text, as people count: a line and a column. Lines are counted from one, at
line feeds; columns from zero, in characters.
-/

namespace Autofix

structure Position where
  line : Nat
  column : Nat
  deriving DecidableEq, Repr, Inhabited

namespace Position

/-- The position after the characters `before`. -/
def after (before : List Char) : Position :=
  ⟨before.count '\n' + 1, (before.reverse.takeWhile (· ≠ '\n')).length⟩

/-- The position of a byte offset. Past the end of the text it is the end; for an offset inside a
    character, which has no position of its own, it is the end, too. -/
def ofOffset (content : List Char) (offset : Nat) : Position :=
  match Text.split? content (min offset (Text.size content)) with
  | some (before, _) => after before
  | none => after content

def toJson (p : Position) : Json :=
  .record [("line", .nat p.line), ("column", .nat p.column)]

def decode : Decoder Position :=
  let what := "struct Position with 2 elements"
  decodeRecord "Position" ["line", "column"] ((none, none) : Option Nat × Option Nat)
    (fun (line, column) name v => do
      if name = "line" then return (some (← Decoder.nat v), column)
      else return (line, some (← Decoder.nat v)))
    ignoreField
    fun shape (line, column) => do
      return ⟨← shape.need what 0 "line" line, ← shape.need what 1 "column" column⟩

end Position

end Autofix
