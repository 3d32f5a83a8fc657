/-!
# Traces

What a run says about its own steps, in order, each remark with the level of its importance. A trace
is data: a function that has remarks to make returns them.
-/

namespace Autofix

inductive Level where
  | debug
  | info
  | warn
  deriving DecidableEq, Repr, Inhabited

namespace Level

def name : Level → String
  | .debug => "DEBUG"
  | .info => "INFO"
  | .warn => "WARN"

def rank : Level → Nat
  | .debug => 0
  | .info => 1
  | .warn => 2

end Level

/-- One remark. -/
structure Event where
  level : Level
  message : String
  deriving DecidableEq, Repr, Inhabited

abbrev Trace := List Event

namespace Event

def debug (message : String) : Event := ⟨.debug, message⟩

def info (message : String) : Event := ⟨.info, message⟩

def warn (message : String) : Event := ⟨.warn, message⟩

end Event

/-- The remarks of a level or above, as lines. -/
def Trace.lines (level : Level) (t : Trace) : List String :=
  (t.filter fun e => level.rank ≤ e.level.rank).map fun e => e.level.name ++ " " ++ e.message

end Autofix
