import Autofix.Path
import Autofix.Span

/-!
# Diagnostics

A diagnostic is one finding in one file: which rule found it, what it says, where it is, how severe
it is, and possibly a fix, which replaces a span of the text.
-/

namespace Autofix

inductive Severity where
  /-- Makes a run fail. -/
  | error
  /-- Is reported and never makes a run fail. -/
  | warning
  deriving DecidableEq, Repr, Inhabited

namespace Severity

/-- The severity that a configuration names. -/
def ofName? (name : String) : Option Severity :=
  if name = "error" then some .error
  else if name = "warning" ∨ name = "warn" then some .warning
  else none

/-- The name in data. -/
def name : Severity → String
  | .error => "error"
  | .warning => "warning"

/-- The name in reports. -/
def label : Severity → String
  | .error => "ERROR"
  | .warning => "WARNING"

def toJson (s : Severity) : Json := .string s.name

def names : List String := ["error", "warning"]

def ofVariant (name : String) : Except DecodeError Severity :=
  if name = "error" then .ok .error
  else if name = "warning" then .ok .warning
  else .error (.unknownVariant name names)

/-- A name, or an object with the name as its only field, which is null. -/
def decode : Decoder Severity
  | .string s => ofVariant s
  | .record [(name, v)] => do
    let s ← ofVariant name
    match v with
    | .null => return s
    | v => v.wrongType "unit"
  | .record _ => .error (.wrongValue "map" "map with a single key")
  | v => v.wrongType "string or map"

end Severity

/-- A replacement for a span of a text. -/
structure Fix where
  span : Span
  text : String
  deriving DecidableEq, Repr, Inhabited

namespace Fix

def toJson (f : Fix) : Json := .record [("span", f.span.toJson), ("text", .string f.text)]

def decode : Decoder Fix :=
  let what := "struct Fix with 2 elements"
  decodeRecord "Fix" ["span", "text"] ((none, none) : Option Span × Option String)
    (fun (span, text) name v => do
      if name = "span" then return (some (← Span.decode v), text)
      else return (span, some (← Decoder.string v)))
    ignoreField
    fun shape (span, text) => do
      return ⟨← shape.need what 0 "span" span, ← shape.need what 1 "text" text⟩

end Fix

structure Diagnostic where
  path : Path
  ruleId : String
  message : String
  span : Span
  loc : Option Location
  severity : Severity
  fix : Option Fix
  deriving DecidableEq, Repr, Inhabited

namespace Diagnostic

/-- The line and column at which reports show a diagnostic, both counted from one; the first ones of
    the file where no location is known. -/
def shownAt (d : Diagnostic) : Nat × Nat :=
  match d.loc with
  | some loc => (loc.start.line, loc.start.column + 1)
  | none => (1, 1)

def toJson (d : Diagnostic) : Json :=
  .record <|
    [("path", d.path.toJson), ("rule_id", .string d.ruleId), ("message", .string d.message),
      ("span", d.span.toJson)]
    ++ (d.loc.map fun loc => ("loc", loc.toJson)).toList
    ++ [("severity", d.severity.toJson)]
    ++ (d.fix.map fun fix => ("fix", fix.toJson)).toList

/-- The fields of a diagnostic that have been read so far. -/
structure Partial where
  path : Option Path := none
  ruleId : Option String := none
  message : Option String := none
  span : Option Span := none
  loc : Option (Option Location) := none
  severity : Option Severity := none
  fix : Option (Option Fix) := none

def decode : Decoder Diagnostic :=
  let what := "struct Diagnostic with 7 elements"
  decodeRecord "Diagnostic" ["path", "rule_id", "message", "span", "loc", "severity", "fix"]
    ({} : Partial)
    (fun known name v => do
      if name = "path" then return { known with path := some (← Path.decode v) }
      else if name = "rule_id" then return { known with ruleId := some (← Decoder.string v) }
      else if name = "message" then return { known with message := some (← Decoder.string v) }
      else if name = "span" then return { known with span := some (← Span.decode v) }
      else if name = "loc" then
        return { known with loc := some (← Decoder.option Location.decode v) }
      else if name = "severity" then return { known with severity := some (← Severity.decode v) }
      else return { known with fix := some (← Decoder.option Fix.decode v) })
    ignoreField
    fun shape known => do
      return {
        path := ← shape.need what 0 "path" known.path
        ruleId := ← shape.need what 1 "rule_id" known.ruleId
        message := ← shape.need what 2 "message" known.message
        span := ← shape.need what 3 "span" known.span
        loc := ← shape.optional what 4 known.loc
        severity := known.severity.getD .error
        fix := ← shape.optional what 6 known.fix }

end Diagnostic

/-- What is left to report after a run, and what the run fixed. -/
structure LintResult where
  failures : List Diagnostic
  fixes : List Diagnostic
  deriving DecidableEq, Repr, Inhabited

namespace LintResult

def errorCount (r : LintResult) : Nat := r.failures.countP fun d => d.severity = .error

def warningCount (r : LintResult) : Nat := r.failures.length - r.errorCount

def hasErrors (r : LintResult) : Bool := 0 < r.errorCount

def toJson (r : LintResult) : Json :=
  .record [("failures", .ofList Diagnostic.toJson r.failures),
    ("fixes", .ofList Diagnostic.toJson r.fixes), ("error_count", .nat r.errorCount),
    ("warning_count", .nat r.warningCount)]

end LintResult

end Autofix
