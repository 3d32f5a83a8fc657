import Autofix.Unicode.Age
import Autofix.Unicode.Category
import Autofix.Unicode.CodeSet
import Autofix.Unicode.Folding
import Autofix.Unicode.Letters
import Autofix.Unicode.Property
import Autofix.Unicode.Script
import Autofix.Unicode.Segmentation

/-!
# Classes of characters by name

A class is asked for by one name (`Greek`, `Lu`, `Alphabetic`) or by a property and its value
(`script=Greek`). Names are compared loosely: without regard to case, blanks, `_`, `-` and a
leading `is` (`looseName`).

* `Class.named` and `Class.valued` look a class up, or say which of the two names is unknown;
* `word`, `decimal` and `whitespace` are the classes behind `\w`, `\d` and `\s`, with the tests
  `isWord`, `isAlphanumeric` and `isWhitespace` on single characters;
* `CodeSet.caseClosure` adds to a set every character that differs from a member only in case.
-/

namespace Autofix.Unicode

/-- The spelling under which names are compared. The one name that loses its meaning together with
    a leading `is`, `isc`, keeps it. -/
def looseName (name : String) : String :=
  let cs := name.toList
  let lower := fun (c : Char) => if 'A' ≤ c ∧ c ≤ 'Z' then Char.ofNat (c.toNat + 32) else c
  let plain := fun (cs : List Char) =>
    (cs.filter fun c => c ≠ ' ' && c ≠ '_' && c ≠ '-' && c.toNat < 128).map lower
  match cs with
  | a :: b :: rest =>
    if lower a = 'i' ∧ lower b = 's' then
      let kept := plain rest
      if kept = ['c'] then "isc" else String.ofList kept
    else String.ofList (plain cs)
  | _ => String.ofList (plain cs)

/-- The entry of a table that goes by a loose name. -/
def lookIn? {β : Type} (table : List (List String × β)) (name : String) : Option β :=
  (table.find? fun e => e.1.contains name).map (·.2)

/-- The code points of a category, by any of its loose names. -/
def category? (name : String) : Option CodeSet :=
  if name = "any" then some CodeSet.full
  else if name = "assigned" then (lookIn? categories "cn").map fun t => (CodeSet.ofText t).compl
  else if name = "ascii" then some (CodeSet.range 0 127)
  else match lookIn? categories name with
    | some t => some (CodeSet.ofText t)
    | none => (lookIn? categoryUnions name).map fun parts =>
      CodeSet.ofRanges <| parts.flatMap fun p =>
        ((lookIn? categories p).map fun t => (CodeSet.ofText t).ranges).getD []

/-- The code points of a script. -/
def script? (name : String) : Option CodeSet := (lookIn? scripts name).map CodeSet.ofText

/-- The code points used with a script. -/
def scriptExtension? (name : String) : Option CodeSet :=
  match (scripts.find? fun e => e.1.contains name) with
  | none => none
  | some (names, own) =>
    some (CodeSet.ofText ((scriptExtensions.find? fun e => e.1 == names).elim own (·.2)))

/-- The code points assigned up to a version. -/
def age? (name : String) : Option CodeSet :=
  let upTo := fun (seen : List (Nat × Nat) × Bool) (e : List String × String) =>
    if seen.2 then seen else (seen.1 ++ (CodeSet.ofText e.2).ranges, e.1.contains name)
  let (ranges, found) := ages.foldl upTo ([], false)
  if found then some (CodeSet.ofRanges ranges) else none

/-- Why no class goes by a name. -/
inductive Unknown where
  /-- No property, category or script has the name. -/
  | property
  /-- The property does not take the value. -/
  | value
  deriving DecidableEq, Repr

namespace Class

/-- The class that goes by one name: a property, else a category, else a script. The names `cf`,
    `lc` and `sc` mean categories. -/
def named (name : String) : Except Unknown CodeSet :=
  let key := looseName name
  let asCategory := fun (_ : Unit) =>
    match category? key with
    | some s => .ok s
    | none => match script? key with
      | some s => .ok s
      | none => .error .property
  if key = "cf" ∨ key = "lc" ∨ key = "sc" then asCategory ()
  else match lookIn? properties key with
    | some t => .ok (CodeSet.ofText t)
    | none => if otherProperties.contains key then .error .property else asCategory ()

/-- The class of the code points for which a property has a value. -/
def valued (property value : String) : Except Unknown CodeSet :=
  let key := looseName property
  let wanted := looseName value
  let orUnknown := fun (s : Option CodeSet) => s.elim (.error .value) .ok
  if key = "gc" ∨ key = "generalcategory" then orUnknown (category? wanted)
  else if key = "sc" ∨ key = "script" then orUnknown (script? wanted)
  else if key = "scx" ∨ key = "scriptextensions" then orUnknown (scriptExtension? wanted)
  else if key = "age" then orUnknown (age? wanted)
  else if key = "gcb" ∨ key = "graphemeclusterbreak" then
    orUnknown ((lookIn? graphemeBreaks wanted).map CodeSet.ofText)
  else if key = "wb" ∨ key = "wordbreak" then
    orUnknown ((lookIn? wordBreaks wanted).map CodeSet.ofText)
  else if key = "sb" ∨ key = "sentencebreak" then
    orUnknown ((lookIn? sentenceBreaks wanted).map CodeSet.ofText)
  else if (lookIn? properties key).isSome ∨ otherProperties.contains key then .error .value
  else .error .property

end Class

/-- Word characters: letters, marks, decimal digits, connectors and joiners. -/
def word : CodeSet := CodeSet.ofText wordText

/-- Decimal digits of every script. -/
def decimal : CodeSet := CodeSet.ofText (((lookIn? categories "nd")).getD "")

/-- White space. -/
def whitespace : CodeSet := CodeSet.ofText (((lookIn? properties "whitespace")).getD "")

/-- Letters. -/
def alphabetic : CodeSet := CodeSet.ofText (((lookIn? properties "alphabetic")).getD "")

/-- Letters and numbers. -/
def alphanumeric : CodeSet := CodeSet.ofText alphanumericText

/-- Characters that are shown by their code point. -/
def unprintable : CodeSet := CodeSet.ofText unprintableText

/-- Whether a character is part of a word; ASCII is decided without the table. -/
def isWord (c : Char) : Bool :=
  if c.toNat < 128 then c.isAlphanum || c = '_' else word.contains c

def isAlphabetic (c : Char) : Bool :=
  if c.toNat < 128 then c.isAlpha else alphabetic.contains c

def isAlphanumeric (c : Char) : Bool :=
  if c.toNat < 128 then c.isAlphanum else alphanumeric.contains c

def isWhitespace (c : Char) : Bool :=
  if c.toNat < 128 then (9 ≤ c.toNat && c.toNat ≤ 13) || c = ' ' else whitespace.contains c

/-- Whether a character is shown by its code point inside a quoted text. -/
def isUnprintable (c : Char) : Bool :=
  if c.toNat < 128 then c.toNat < 32 || c.toNat = 127 else unprintable.contains c

/-- The groups of code points that differ only in case. -/
def foldingOrbits : List (List Nat) :=
  (CodeSet.words foldingGroups).map fun group => (Text.fields '~' group).map CodeSet.hexValue

/-- The members of a set together with all characters that differ from one only in case. -/
def CodeSet.caseClosure (s : CodeSet) : CodeSet :=
  ofRanges <| s.ranges ++ foldingOrbits.flatMap fun orbit =>
    if orbit.any s.containsCode then orbit.map fun n => (n, n) else []

/-- Like `caseClosure`, for the letters of ASCII alone. -/
def CodeSet.asciiCaseClosure (s : CodeSet) : CodeSet :=
  ofRanges <| s.ranges ++ (List.range 26).flatMap fun i =>
    if s.containsCode (65 + i) || s.containsCode (97 + i) then
      [(65 + i, 65 + i), (97 + i, 97 + i)]
    else []

end Autofix.Unicode
