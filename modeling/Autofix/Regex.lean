import Autofix.Regex.Meaning
import Autofix.Regex.Template

/-!
# Regular expressions

* `Regex.read?` reads a pattern under given flags, and `Regex.ofText?` one in which `^` and `$` match
  at lines;
* `Regex.isMatch` says whether a pattern matches anywhere in a text;
* `Regex.findAll` finds the matches of a pattern in a text;
* `Regex.expand` fills in a replacement template for a match.
-/

namespace Autofix

open Regex

/-- A pattern that is ready for searching. -/
structure Regex where
  program : Program
  groups : Nat
  names : List (String × Nat)
  deriving Inhabited

namespace Regex

/-- Reads a pattern; `flags` hold before the first one is written. -/
def read? (flags : Flags) (pattern : String) : Except Flaw Regex := do
  let parsed ← Parsed.ofText? pattern
  let (e, _) ← parsed.tree.meaning flags
  if e.weight > sizeLimit then throw .tooLarge
  return ⟨Program.ofExpr e, parsed.groups, parsed.names⟩

def ofText? (pattern : String) : Except Flaw Regex := read? Flags.initial pattern

/-- Whether there is a match anywhere in a text. -/
def isMatch (r : Regex) (text : List Char) : Bool := (r.program.search 0 none [] none text).isSome

/-- The matches in a text, from left to right, none overlapping the one before. -/
def findAll (r : Regex) (text : List Char) : List Match := r.program.findAll r.groups text

/-- The text that a replacement template makes of a match. -/
def expand (r : Regex) (template : String) (text : List Char) (m : Match) : List Char :=
  Template.expand template r.names text m

end Regex

end Autofix
