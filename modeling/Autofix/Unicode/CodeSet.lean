import Autofix.Text

/-!
# Sets of code points

A *code set* is a finite union of closed ranges of code points, kept in normal form: the ranges
ascend and neither touch nor overlap. Two sets with the same members are then equal, and a set is
empty exactly when it has no range.

* `CodeSet.ofRanges` brings any list of ranges into normal form;
* `union`, `inter`, `diff`, `symmDiff` and `compl` are the operations of sets;
* `CodeSet.ofText` reads the notation of the tables in this folder.
-/

namespace Autofix.Unicode

/-- A union of closed ranges of code points, ascending and apart from each other. -/
structure CodeSet where
  ranges : List (Nat × Nat)
  deriving DecidableEq, Repr, Inhabited

namespace CodeSet

/-- The largest code point. -/
def last : Nat := 0x10FFFF

/-- The set without members. -/
def empty : CodeSet := ⟨[]⟩

/-- The set of all code points. -/
def full : CodeSet := ⟨[(0, last)]⟩

/-- Joins ranges that ascend by their lower ends: a range that touches the one before it is drawn
    into it. -/
def join : Nat × Nat → List (Nat × Nat) → List (Nat × Nat)
  | r, [] => [r]
  | r, s :: rest => if s.1 ≤ r.2 + 1 then join (r.1, max r.2 s.2) rest else r :: join s rest

/-- The set of the code points in some of the ranges, which may come in any order. -/
def ofRanges (rs : List (Nat × Nat)) : CodeSet :=
  match (rs.filter fun r => r.1 ≤ r.2).mergeSort fun r s => r.1 ≤ s.1 with
  | [] => empty
  | r :: rest => ⟨join r rest⟩

/-- The set of one range. -/
def range (lo hi : Nat) : CodeSet := ofRanges [(lo, hi)]

/-- The set of one character. -/
def single (c : Char) : CodeSet := ⟨[(c.toNat, c.toNat)]⟩

/-- The set of the given characters. -/
def ofChars (cs : List Char) : CodeSet := ofRanges (cs.map fun c => (c.toNat, c.toNat))

def isEmpty (s : CodeSet) : Bool := s.ranges.isEmpty

/-- Looks a code point up among ascending ranges, giving up at the first range above it. -/
def among (n : Nat) : List (Nat × Nat) → Bool
  | [] => false
  | r :: rest => if n < r.1 then false else if n ≤ r.2 then true else among n rest

def containsCode (s : CodeSet) (n : Nat) : Bool := among n s.ranges

def contains (s : CodeSet) (c : Char) : Bool := s.containsCode c.toNat

def union (s t : CodeSet) : CodeSet := ofRanges (s.ranges ++ t.ranges)

/-- The gaps of ascending ranges, from `lo` up to the last code point. -/
def gaps (lo : Nat) : List (Nat × Nat) → List (Nat × Nat)
  | [] => if lo ≤ last then [(lo, last)] else []
  | r :: rest => if lo < r.1 then (lo, r.1 - 1) :: gaps (r.2 + 1) rest else gaps (r.2 + 1) rest

def compl (s : CodeSet) : CodeSet := ⟨gaps 0 s.ranges⟩

def inter (s t : CodeSet) : CodeSet := (s.compl.union t.compl).compl

def diff (s t : CodeSet) : CodeSet := s.inter t.compl

def symmDiff (s t : CodeSet) : CodeSet := (s.union t).diff (s.inter t)

/-- The number that hexadecimal digits in lower case write. -/
def hexValue (cs : List Char) : Nat :=
  cs.foldl (fun n c => n * 16 + (if c.isDigit then c.toNat - 48 else c.toNat - 87)) 0

/-- Reads one range, `lo-hi` or a single code point. -/
def rangeOfText (cs : List Char) : Nat × Nat :=
  let lo := cs.takeWhile (· ≠ '-')
  match cs.dropWhile (· ≠ '-') with
  | _ :: hi => (hexValue lo, hexValue hi)
  | [] => (hexValue lo, hexValue lo)

/-- The words of a table, which are separated by blanks and line breaks. -/
def words (table : String) : List (List Char) :=
  ((Text.fields '\n' table.toList).flatMap (Text.fields ' ')).filter (· ≠ [])

/-- Reads ranges in hexadecimal that are already in normal form. -/
def ofText (table : String) : CodeSet := ⟨(words table).map rangeOfText⟩

end CodeSet

end Autofix.Unicode
