import Autofix.Diagnostic.Grouping

/-!
# Report formats

A report shows the failures that remain and the fixes that were made. An empty report means that
there is nothing to say.

* `prose`: a block for the fixes of each file, then a line for each failure;
* `verbose`: the same, with the name of the rule in each line;
* `json`: the failures as data;
* `stylish`: the failures in a table under the name of their file.
-/

namespace Autofix

inductive Format where
  | prose
  | verbose
  | json
  | stylish
  deriving DecidableEq, Repr, Inhabited

namespace Format

/-- All formats, in the order in which they are listed. -/
def all : List Format := [.prose, .verbose, .json, .stylish]

def name : Format → String
  | .prose => "prose"
  | .verbose => "verbose"
  | .json => "json"
  | .stylish => "stylish"

/-- The format that is used when none is asked for. -/
def standard : Format := .prose

def ofName? (name : String) : Option Format := all.find? fun f => f.name = name

end Format

namespace Report

/-- The block of fixes of each file, followed by an empty line. -/
def fixBlocks (fixes : List Diagnostic) : List String :=
  (Diagnostic.byPath fixes).flatMap fun (path, group) =>
    s!"Fixed {group.length} error(s) in {path.text}"
      :: (group.map fun d => s!"\t{d.ruleId}: {d.message}") ++ [""]

/-- A failure in one line: severity, what `origin` says, place and message. -/
def failureLine (origin : Diagnostic → String) (d : Diagnostic) : String :=
  let (line, column) := d.shownAt
  s!"{d.severity.label}: {origin d}{d.path.text}[{line}, {column}]: {d.message}"

/-- Fixes, then failures, one to a line. -/
def lines (origin : Diagnostic → String) (failures fixes : List Diagnostic) : String :=
  if failures = [] ∧ fixes = [] then ""
  else "\n".intercalate (fixBlocks fixes ++ failures.map (failureLine origin)) ++ "\n"

/-- A text with blanks on the left, up to a width. -/
def alignRight (width : Nat) (s : String) : String :=
  String.ofList (List.replicate (width - s.length) ' ') ++ s

/-- A text with blanks on the right, up to a width. -/
def alignLeft (width : Nat) (s : String) : String :=
  s ++ String.ofList (List.replicate (width - s.length) ' ')

/-- A failure as a row of a table. -/
def failureRow (d : Diagnostic) : String :=
  let (line, column) := d.shownAt
  let place := alignRight 5 (toString line) ++ ":" ++ alignLeft 4 (toString column)
  s!"{place} {alignLeft 7 d.severity.name}  {d.message}  {d.ruleId}\n"

/-- A table for each file, each followed by an empty line. -/
def tables (failures : List Diagnostic) : String :=
  String.join <| (Diagnostic.byPath failures).map fun (path, group) =>
    path.text ++ "\n" ++ String.join (group.map failureRow) ++ "\n"

end Report

/-- The report of failures and fixes in a format. -/
def Format.render (f : Format) (failures fixes : List Diagnostic) : String :=
  match f with
  | .prose => Report.lines (fun _ => "") failures fixes
  | .verbose => Report.lines (fun d => s!"({d.ruleId}) ") failures fixes
  | .json => (Json.ofList Diagnostic.toJson failures).compact
  | .stylish => Report.tables failures

end Autofix
