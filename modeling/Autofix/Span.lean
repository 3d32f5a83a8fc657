import Autofix.Position

/-!
# Spans

A span is a range of byte offsets, its end not included. Nothing requires that the end is not before
the start; where that matters, it is asked.

* `Span.overlaps` says whether two spans compete for a place;
* `Span.compare` orders spans by their start, then by their end;
* `Location.ofSpan` gives the positions of both ends in a text.
-/

namespace Autofix

structure Span where
  start : Nat
  stop : Nat
  deriving DecidableEq, Repr, Inhabited

namespace Span

def isEmpty (s : Span) : Bool := s.start = s.stop

/-- Whether two spans share a byte, or are the same point of insertion. -/
def overlaps (s t : Span) : Bool :=
  if s.isEmpty && t.isEmpty then s.start = t.start else s.start < t.stop && t.start < s.stop

/-- The order by start, then by end. -/
def compare (s t : Span) : Ordering :=
  (Ord.compare s.start t.start).then (Ord.compare s.stop t.stop)

def toJson (s : Span) : Json := .record [("start", .nat s.start), ("end", .nat s.stop)]

def decode : Decoder Span :=
  let what := "struct Span with 2 elements"
  decodeRecord "Span" ["start", "end"] ((none, none) : Option Nat × Option Nat)
    (fun (start, stop) name v => do
      if name = "start" then return (some (← Decoder.nat v), stop)
      else return (start, some (← Decoder.nat v)))
    ignoreField
    fun shape (start, stop) => do
      return ⟨← shape.need what 0 "start" start, ← shape.need what 1 "end" stop⟩

end Span

/-- The positions of the two ends of a span. -/
structure Location where
  start : Position
  stop : Position
  deriving DecidableEq, Repr, Inhabited

namespace Location

def ofSpan (content : List Char) (span : Span) : Location :=
  ⟨Position.ofOffset content span.start, Position.ofOffset content span.stop⟩

def toJson (l : Location) : Json :=
  .record [("start", l.start.toJson), ("end", l.stop.toJson)]

def decode : Decoder Location :=
  let what := "struct Location with 2 elements"
  decodeRecord "Location" ["start", "end"] ((none, none) : Option Position × Option Position)
    (fun (start, stop) name v => do
      if name = "start" then return (some (← Position.decode v), stop)
      else return (start, some (← Position.decode v)))
    ignoreField
    fun shape (start, stop) => do
      return ⟨← shape.need what 0 "start" start, ← shape.need what 1 "end" stop⟩

end Location

end Autofix
