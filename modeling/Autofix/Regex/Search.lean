import Autofix.Regex.Program
import Autofix.Text

/-!
# Searching

All ways through a program are followed side by side, one character at a time, in the order of
preference. Two ways that meet at an instruction go on alike, so that only the preferred one is
kept. The match that is found starts as early as possible and is the preferred one from there.

* `Program.find?` finds the first match in the rest of a text;
* `Program.findAll` finds all matches, from left to right, none overlapping the one before.
-/

namespace Autofix.Regex

/-- The places kept so far, by the numbers of their slots. -/
abbrev Slots := Array (Option Nat)

def Slots.put (slots : Slots) (slot place : Nat) : Slots :=
  if slot < slots.size then slots.setIfInBounds slot (some place)
  else (slots ++ Array.replicate (slot - slots.size) none).push (some place)

def Slots.get? (slots : Slots) (slot : Nat) : Option Nat := (slots[slot]?).join

/-- A way through the program: where it goes on, and what it has kept. -/
structure Thread where
  place : Nat
  slots : Slots
  deriving Inhabited

namespace Program

/-- Where a search is: the offset and the characters on its two sides. -/
structure Here where
  offset : Nat
  before : Option Char
  after : Option Char

/-- Follows ways up to instructions that read or accept. `stack` holds the ways still to follow,
    the preferred one first; `seen` has a bit for every instruction met so far; `found` are the ways
    that wait for a character, last one first. -/
def follow (p : Program) (here : Here) :
    Nat → List Thread → Nat → List Thread → List Thread × Nat
  | 0, _, seen, found => (found, seen)
  | _ + 1, [], seen, found => (found, seen)
  | fuel + 1, t :: stack, seen, found =>
    if seen.testBit t.place then follow p here fuel stack seen found
    else
      let seen := seen ||| 1 <<< t.place
      match p.code[t.place]? with
      | some (.split first second) =>
        follow p here fuel (⟨first, t.slots⟩ :: ⟨second, t.slots⟩ :: stack) seen found
      | some (.test l next) =>
        if l.holds here.before here.after then
          follow p here fuel (⟨next, t.slots⟩ :: stack) seen found
        else follow p here fuel stack seen found
      | some (.save slot next) =>
        follow p here fuel (⟨next, t.slots.put slot here.offset⟩ :: stack) seen found
      | some (.read _ _) | some .accept => follow p here fuel stack seen (t :: found)
      | some .fail | none => follow p here fuel stack seen found

/-- The ways that wait for a character, in order of preference. -/
def waiting (p : Program) (here : Here) (threads : List Thread) : List Thread :=
  (follow p here (2 * p.code.size + threads.length + 1) threads 0 []).1.reverse

/-- Lets ways read a character. The result are the ways that go on and, if one accepts, what it has
    kept; the ways after that one are given up. -/
def step (p : Program) (offset : Nat) (c : Option Char) :
    List Thread → List Thread × Option Slots
  | [] => ([], none)
  | t :: ts =>
    match p.code[t.place]? with
    | some .accept => ([], some (t.slots.put 1 offset))
    | some (.read s next) =>
      let (more, accepted) := step p offset c ts
      if c.any s.contains then (⟨next, t.slots⟩ :: more, accepted) else (more, accepted)
    | _ => step p offset c ts

/-- The ways to follow at a place; a new one starts there as long as there is no match. -/
def entering (p : Program) (offset : Nat) (threads : List Thread) (best : Option Slots) :
    List Thread :=
  if best.isNone then threads ++ [⟨p.start, Slots.put #[] 0 offset⟩] else threads

/-- Searches the rest of a text. `threads` are the ways that have read what is before it, and
    `best` is the match found so far. -/
def search (p : Program) (offset : Nat) (before : Option Char) (threads : List Thread)
    (best : Option Slots) : List Char → Option Slots
  | [] =>
    let ways := p.waiting ⟨offset, before, none⟩ (p.entering offset threads best)
    (p.step offset none ways).2.or best
  | c :: cs =>
    let ways := p.waiting ⟨offset, before, some c⟩ (p.entering offset threads best)
    let (threads, accepted) := p.step offset (some c) ways
    let best := accepted.or best
    if threads.isEmpty && best.isSome then best
    else search p (offset + c.utf8Size) (some c) threads best cs

end Program

/-- A match: its span and, by number, those of the groups that took part in it. -/
structure Match where
  start : Nat
  stop : Nat
  groups : Array (Option (Nat × Nat))
  deriving Repr, Inhabited

def Match.ofSlots? (groups : Nat) (slots : Slots) : Option Match := do
  let start ← slots.get? 0
  let stop ← slots.get? 1
  let span := fun i => do return ((← slots.get? (2 * i)), (← slots.get? (2 * i + 1)))
  return ⟨start, stop, ((List.range (groups + 1)).map span).toArray⟩

namespace Program

/-- The first match in the rest of a text, which starts at an offset after a character. -/
def find? (p : Program) (groups offset : Nat) (before : Option Char) (rest : List Char) :
    Option Match :=
  (search p offset before [] none rest).bind (Match.ofSlots? groups)

/-- The matches in the rest of a text. After a match the search goes on at its end; an empty match
    that touches the end of the one before it, at `last`, is passed over. A match that does not lie
    in the rest of the text would end the search. -/
def findFrom (p : Program) (groups : Nat) :
    Nat → Nat → Option Char → Option Nat → List Char → List Match
  | 0, _, _, _, _ => []
  | fuel + 1, offset, before, last, rest =>
    match find? p groups offset before rest with
    | none => []
    | some m =>
      if m.start = m.stop ∧ last = some m.stop then
        match rest with
        | [] => []
        | c :: cs => findFrom p groups fuel (offset + c.utf8Size) (some c) last cs
      else if offset ≤ m.start ∧ m.start ≤ m.stop then
        match Text.split? rest (m.start - offset), Text.split? rest (m.stop - offset) with
        | some _, some (read, left) =>
          m :: findFrom p groups fuel m.stop (read.getLast?.or before) (some m.stop) left
        | _, _ => []
      else []

/-- All matches in a text, from left to right. -/
def findAll (p : Program) (groups : Nat) (text : List Char) : List Match :=
  findFrom p groups (2 * text.length + 2) 0 none none text

end Program

end Autofix.Regex
