import Autofix.Report.Format

/-!
# Command line arguments

Arguments are read from left to right as flags, with or without a value, and operands. A flag is
written out after `--`, or as one letter after `-`, in which case several may share one `-`. The
value of a flag stands after `=`, or right after the letter, or in the next argument, if that does
not look like a flag. After `--` everything is an operand.

Reading stops at the first fault, and also at a flag that asks for help or for the version.
-/

namespace Autofix.Command

/-- What a flag takes: a value that help shows under a name. A path must not be empty. -/
structure Value where
  name : String
  isPath : Bool
  deriving DecidableEq, Repr, Inhabited

structure Flag where
  long : String
  short : Option Char
  value : Option Value
  /-- Whether the flag may be given more than once. -/
  repeats : Bool
  help : String
  deriving DecidableEq, Repr, Inhabited

/-- The arguments that a command takes. -/
structure Grammar where
  flags : List Flag
  /-- Whether there may be operands. -/
  operands : Bool
  /-- Whether there is a flag that asks for the version. -/
  version : Bool
  deriving Repr, Inhabited

/-- An argument that has been read. A flag without a value has none. -/
inductive Argument where
  | flag (long : String) (value : Option String)
  | operand (text : String)
  deriving DecidableEq, Repr, Inhabited

inductive UsageError where
  | unknownFlag (text : String)
  | unexpected (argument : String)
  | repeated (long : String)
  | missingValue (long : String)
  | unexpectedValue (long : String)
  | unknownCommand (name : String)
  | missingCommand
  deriving DecidableEq, Repr, Inhabited

def UsageError.message : UsageError → String
  | .unknownFlag text => s!"unexpected argument '{text}' found"
  | .unexpected argument => s!"unexpected argument '{argument}' found"
  | .repeated long => s!"the argument '--{long}' cannot be used multiple times"
  | .missingValue long => s!"a value is required for '--{long}' but none was supplied"
  | .unexpectedValue long => s!"unexpected value for '--{long}' found; no more were expected"
  | .unknownCommand name => s!"unrecognized subcommand '{name}'"
  | .missingCommand => "a subcommand is required but one was not provided"

/-- Why reading stops. -/
inductive Stop where
  | help
  | version
  | fault (e : UsageError)
  deriving DecidableEq, Repr, Inhabited

namespace Grammar

/-- Adds a flag to the arguments read so far, the last one first. -/
def addFlag (f : Flag) (value : Option String) (sofar : List Argument) :
    Except Stop (List Argument) :=
  let given := sofar.any fun
    | .flag long _ => long = f.long
    | .operand _ => false
  let isEmptyPath := f.value.any (·.isPath) && value = some ""
  if isEmptyPath then .error (.fault (.missingValue f.long))
  else if given && !f.repeats then .error (.fault (.repeated f.long))
  else .ok (.flag f.long value :: sofar)

def addOperand (g : Grammar) (text : String) (sofar : List Argument) :
    Except Stop (List Argument) :=
  if g.operands then .ok (.operand text :: sofar) else .error (.fault (.unexpected text))

/-- The arguments read so far, and a flag that waits for its value. -/
abbrev Reading := List Argument × Option Flag

/-- Reads letters that share one `-`. -/
def letters (g : Grammar) (sofar : List Argument) : List Char → Except Stop Reading
  | [] => .ok (sofar, none)
  | c :: rest =>
    if c = 'h' then .error .help
    else if c = 'V' ∧ g.version then .error .version
    else match g.flags.find? fun f => f.short = some c with
      | none => .error (.fault (.unknownFlag (String.ofList ['-', c])))
      | some f =>
        if f.value.isNone then do letters g (← addFlag f none sofar) rest
        else match rest with
          | [] => .ok (sofar, some f)
          | '=' :: value => return (← addFlag f (some (String.ofList value)) sofar, none)
          | value => return (← addFlag f (some (String.ofList value)) sofar, none)

/-- Reads a flag that is written out: its name and a value after `=`, if there is one. -/
def word (g : Grammar) (sofar : List Argument) (name : String) (value : Option String) :
    Except Stop Reading :=
  let plain := fun (stop : Stop) =>
    if value.isSome then Except.error (.fault (.unexpectedValue name)) else .error stop
  if name = "help" then plain .help
  else if name = "version" ∧ g.version then plain .version
  else match g.flags.find? fun f => f.long = name with
    | none => .error (.fault (.unknownFlag ("--" ++ name)))
    | some f =>
      match f.value, value with
      | none, none => return (← addFlag f none sofar, none)
      | none, some _ => .error (.fault (.unexpectedValue name))
      | some _, none => .ok (sofar, some f)
      | some _, some v => return (← addFlag f (some v) sofar, none)

/-- Whether an argument looks like a flag, or like the `--` after which there are no flags. -/
def looksLikeFlag (arg : String) : Bool :=
  match arg.toList with
  | '-' :: _ :: _ => true
  | _ => false

/-- Reads one argument that stands before any `--`. -/
def argument (g : Grammar) (sofar : List Argument) (arg : String) : Except Stop Reading :=
  match arg.toList with
  | '-' :: '-' :: cs =>
    let name := String.ofList (cs.takeWhile (· ≠ '='))
    let value := match cs.dropWhile (· ≠ '=') with
      | _ :: v => some (String.ofList v)
      | [] => none
    g.word sofar name value
  | '-' :: c :: cs => g.letters sofar (c :: cs)
  | _ => return (← g.addOperand arg sofar, none)

/-- Reads arguments, given those read so far, the last one first. -/
def readFrom (g : Grammar) (sofar : List Argument) : List String → Except Stop (List Argument)
  | [] => .ok sofar.reverse
  | arg :: rest =>
    if arg = "--" then
      return (← rest.foldlM (fun sofar text => g.addOperand text sofar) sofar).reverse
    else do
      match ← g.argument sofar arg with
      | (sofar, none) => readFrom g sofar rest
      | (sofar, some f) =>
        match rest with
        | value :: rest =>
          if looksLikeFlag value then throw (.fault (.missingValue f.long))
          else readFrom g (← addFlag f (some value) sofar) rest
        | [] => throw (.fault (.missingValue f.long))

def read (g : Grammar) (args : List String) : Except Stop (List Argument) := g.readFrom [] args

end Grammar

/-! ### What was read -/

namespace Argument

def operands (args : List Argument) : List String :=
  args.filterMap fun
    | .operand text => some text
    | .flag .. => none

/-- The values of a flag, in order. -/
def values (long : String) (args : List Argument) : List String :=
  args.filterMap fun
    | .flag name (some v) => if name = long then some v else none
    | _ => none

def value? (long : String) (args : List Argument) : Option String := (values long args).head?

def has (long : String) (args : List Argument) : Bool := args.contains (.flag long none)

end Argument

end Autofix.Command
