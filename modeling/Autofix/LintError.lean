import Autofix.Disk.Walk
import Autofix.Problem

/-!
# Errors of a run

Each of them ends the run in which it arises. Only `lintErrorsFound` is about the linted files; it
comes after everything else has been done.
-/

namespace Autofix

inductive LintError where
  | missingProjectFile (path : Path)
  /-- No lint configuration could be determined. -/
  | missingConfiguration
  | fileNotInProject (file project : Path)
  | unreadableFile (path : Path)
  /-- There is no report format of this name. -/
  | invalidFormat (name : String)
  /-- Errors remain, and the options do not say to ignore them. -/
  | lintErrorsFound
  | config (p : Problem)
  | pattern (message : String)
  | io (e : IoError)
  | walk (e : WalkError)
  /-- A replacement could not be made in the text that the ones before it had left. -/
  | misplacedFix (path : Path)
  | internal (message : String)
  deriving Repr

namespace LintError

def message : LintError → String
  | .missingProjectFile path => s!"Could not find project file '{path.text}'."
  | .missingConfiguration => "Task must specify a lint configuration."
  | .fileNotInProject file project =>
    s!"File '{file.text}' is not part of the project '{project.text}'."
  | .unreadableFile path => s!"Could not read file '{path.text}'."
  | .invalidFormat name => s!"Invalid lint format \"{name}\"."
  | .lintErrorsFound => "Lint errors were found."
  | .config p => s!"Configuration error: {p.message}"
  | .pattern message => s!"Invalid include pattern: {message}"
  | .io e => s!"I/O error: {e.message}"
  | .walk e => s!"I/O error: {e.message}"
  | .misplacedFix path => s!"Internal error: A fix does not lie in the text of {path.text}."
  | .internal message => s!"Internal error: {message}"

/-- Whether an error is only about what was found in the linted files. -/
def isAboutFindings : LintError → Bool
  | .lintErrorsFound => true
  | _ => false

end LintError

end Autofix
