import Autofix.Regex.Search

/-!
# Replacement templates

A template is a text in which `$1`, `$name` and `\x24\x7bname\x7d` stand for what the group of that
number or name matched, and `$$` for one `$`. A `$` before anything else stands for itself. Without
braces a name is as long as it can be: letters of ASCII, digits and `_`.
-/

namespace Autofix.Regex

/-- A part of a template. -/
inductive Piece where
  | text (c : Char)
  | group (name : String)
  deriving DecidableEq, Repr

namespace Template

def isNameChar (c : Char) : Bool := c.toNat < 128 && (c.isAlphanum || c = '_')

/-- The parts of a template. The fuel bounds the characters read. -/
def piecesFrom : Nat → List Char → List Piece
  | 0, _ => []
  | _ + 1, [] => []
  | fuel + 1, '$' :: rest =>
    match rest with
    | '$' :: rest => .text '$' :: piecesFrom fuel rest
    | '\x7b' :: inner =>
      match inner.dropWhile (· ≠ '\x7d') with
      | _ :: after =>
        .group (String.ofList (inner.takeWhile (· ≠ '\x7d'))) :: piecesFrom fuel after
      | [] => .text '$' :: piecesFrom fuel rest
    | rest =>
      let name := rest.takeWhile isNameChar
      if name = [] then .text '$' :: piecesFrom fuel rest
      else .group (String.ofList name) :: piecesFrom fuel (rest.drop name.length)
  | fuel + 1, c :: rest => .text c :: piecesFrom fuel rest

def pieces (template : String) : List Piece :=
  piecesFrom (template.length + 1) template.toList

/-- The number that a name writes, if it writes one of 64 bits; a sign `+` may stand before it. -/
def number? (name : String) : Option Nat :=
  let cs := match name.toList with
    | '+' :: cs => cs
    | cs => cs
  if cs ≠ [] ∧ cs.all Char.isDigit then
    let n := cs.foldl (fun n c => n * 10 + (c.toNat - 48)) 0
    if n < Nat.pow 2 64 then some n else none
  else none

/-- What a group of a match took from the text; nothing, if there is no such group or it took no
    part in the match. -/
def groupText (text : List Char) (m : Match) (index : Nat) : List Char :=
  match (m.groups[index]?).join with
  | some (start, stop) => (Text.slice? text start stop).getD []
  | none => []

/-- The text that a template makes of a match. -/
def expand (template : String) (names : List (String × Nat)) (text : List Char) (m : Match) :
    List Char :=
  (pieces template).flatMap fun
    | .text c => [c]
    | .group name =>
      match number? name with
      | some index => groupText text m index
      | none => (names.lookup name).elim [] (groupText text m)

end Template

end Autofix.Regex
