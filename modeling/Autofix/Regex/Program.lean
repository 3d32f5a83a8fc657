import Autofix.Regex.Expr

/-!
# Programs

An expression is matched by a program: a list of instructions, each of which says where to go on.
Where a program may go on in two ways, the first one is preferred.
-/

namespace Autofix.Regex

open Unicode

inductive Instruction where
  /-- Reads a character of a set. -/
  | read (s : CodeSet) (next : Nat)
  | test (l : Look) (next : Nat)
  /-- Goes on at `first`, or else at `second`. -/
  | split (first second : Nat)
  /-- Keeps the place, under the number of a slot. -/
  | save (slot : Nat) (next : Nat)
  | accept
  | fail
  deriving Repr, Inhabited

structure Program where
  code : Array Instruction
  start : Nat
  deriving Inhabited

namespace Program

/-- A program under construction. -/
abbrev Build := StateM (Array Instruction)

/-- Adds an instruction and returns its place. -/
def add (i : Instruction) : Build Nat := fun code => (code.size, code.push i)

def set (place : Nat) (i : Instruction) : Build Unit :=
  modify fun code => code.setIfInBounds place i

/-- A choice between going on with a repetition and leaving it. -/
def choice (greedy : Bool) (more leave : Nat) : Instruction :=
  if greedy then .split more leave else .split leave more

/-- Repeats a construction; each one leads to the one made before it. -/
def times (build : Nat → Build Nat) : Nat → Nat → Build Nat
  | 0, next => return next
  | n + 1, next => do times build n (← build next)

/-- Adds the instructions that match an expression and then go on at `next`; returns where they
    start. A repetition of something that may match the empty text is left after an empty round,
    since its choice has then been made at that place. -/
def compile : Expr → Nat → Build Nat
  | .empty, next => return next
  | .set s, next => add (.read s next)
  | .look l, next => add (.test l next)
  | .seq a b, next => do compile a (← compile b next)
  | .alt a b, next => do
    let place ← add .fail
    let first ← compile a next
    let second ← compile b next
    set place (.split first second)
    return place
  | .group index e, next => do
    let close ← add (.save (2 * index + 1) next)
    let inner ← compile e close
    add (.save (2 * index) inner)
  | .loop min max greedy e, next =>
    let once := compile e
    match max with
    | some max =>
      let optional := fun inner => do
        let body ← once inner
        add (choice greedy body next)
      do
        let rest ← times optional (max - min) next
        times once min rest
    | none => do
      let again ← add .fail
      let body ← once again
      set again (choice greedy body next)
      if min = 0 then
        if e.consumes then return again
        else add (choice greedy body next)
      else times once (min - 1) body

/-- The program of an expression. -/
def ofExpr (e : Expr) : Program :=
  let build : Build Nat := do
    let accept ← add .accept
    compile e accept
  let (start, code) := build.run #[]
  ⟨code, start⟩

end Program

end Autofix.Regex
