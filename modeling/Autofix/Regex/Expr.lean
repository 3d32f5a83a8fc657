import Autofix.Unicode.Class

/-!
# What patterns mean

An expression is a pattern without notation: flags have had their effect, classes are sets of code
points, and a place condition is a test on the two characters around a place (`Look.holds`).
-/

namespace Autofix.Regex

open Unicode

/-- Conditions on a place in a text. Those about words come for the words of Unicode and for those
    of ASCII alone. -/
inductive Look where
  | textStart
  | textEnd
  | lineStart
  | lineEnd
  /-- Line starts and ends where a carriage return ends a line, too. -/
  | anyLineStart
  | anyLineEnd
  | boundary (unicode : Bool)
  | notBoundary (unicode : Bool)
  | wordStart (unicode : Bool)
  | wordEnd (unicode : Bool)
  | wordStartHalf (unicode : Bool)
  | wordEndHalf (unicode : Bool)
  deriving DecidableEq, Repr, Inhabited

/-- Whether a neighbour of a place is part of a word. -/
def inWord (unicode : Bool) : Option Char → Bool
  | none => false
  | some c => if unicode || c.toNat < 128 then isWord c else false

/-- Whether a condition holds between two characters, either of which is missing at an end. -/
def Look.holds (before after : Option Char) : Look → Bool
  | .textStart => before = none
  | .textEnd => after = none
  | .lineStart => before = none || before = some '\n'
  | .lineEnd => after = none || after = some '\n'
  | .anyLineStart =>
    before = none || before = some '\n' || (before = some '\r' && after ≠ some '\n')
  | .anyLineEnd => after = none || after = some '\r' || (after = some '\n' && before ≠ some '\r')
  | .boundary u => inWord u before != inWord u after
  | .notBoundary u => inWord u before == inWord u after
  | .wordStart u => !inWord u before && inWord u after
  | .wordEnd u => inWord u before && !inWord u after
  | .wordStartHalf u => !inWord u before
  | .wordEndHalf u => !inWord u after

inductive Expr where
  | empty
  | set (s : CodeSet)
  | look (l : Look)
  | seq (a b : Expr)
  | alt (a b : Expr)
  /-- At least `min` and at most `max` times, as often as possible if `greedy`. -/
  | loop (min : Nat) (max : Option Nat) (greedy : Bool) (e : Expr)
  | group (index : Nat) (e : Expr)
  deriving Repr, Inhabited

namespace Expr

/-- Whether an expression can match nothing but the empty text. -/
def onlyEmpty : Expr → Bool
  | empty => true
  | set _ => false
  | look _ => true
  | seq a b => a.onlyEmpty && b.onlyEmpty
  | alt a b => a.onlyEmpty && b.onlyEmpty
  | loop _ max _ e => e.onlyEmpty || max = some 0
  | group _ e => e.onlyEmpty

/-- Whether every match of an expression has a character; never true of one without matches. -/
def consumes : Expr → Bool
  | empty => false
  | set s => !s.isEmpty
  | look _ => false
  | seq a b => a.consumes || b.consumes
  | alt a b => a.consumes && b.consumes
  | loop min _ _ e => 0 < min && e.consumes
  | group _ e => e.consumes

/-- A repetition, written as simply as it can be: what matches only the empty text is not repeated,
    and what is repeated exactly once stands for itself. -/
def repeated (min : Nat) (max : Option Nat) (greedy : Bool) (e : Expr) : Expr :=
  let (min, max) :=
    if e.onlyEmpty then (Nat.min min 1, some (max.elim 1 (Nat.min 1))) else (min, max)
  if min = 0 ∧ max = some 0 then empty
  else if min = 1 ∧ max = some 1 then e
  else loop min max greedy e

/-- About how many bytes an expression takes when its repetitions are written out. -/
def weight : Expr → Nat
  | empty => 0
  | set s => if s.ranges.all fun r => r.2 < 128 then 32 else 72 * s.ranges.length
  | look _ => 32
  | seq a b => a.weight + b.weight
  | alt a b => a.weight + b.weight + 32
  | loop min max _ e => max.elim (Nat.max min 1 * e.weight + 64) fun m => m * (e.weight + 32)
  | group _ e => e.weight + 64

end Expr

end Autofix.Regex
