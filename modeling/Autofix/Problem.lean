import Autofix.Config.Schema
import Autofix.Disk
import Autofix.Glob.Set
import Autofix.Json.Reader
import Autofix.Regex.Tree

/-!
# Problems

What may be wrong with the task options, a lint configuration or a project file, and how a message
says it.
-/

namespace Autofix

inductive Problem where
  | unreadableOptions (path : Path) (e : IoError)
  | unreadableConfig (path : Path) (e : IoError)
  | invalidJson (flaw : Json.Flaw)
  | invalidOptions (e : DecodeError)
  | schemaViolation (v : Schema.Violation)
  | invalidConfig (e : DecodeError)
  | invalidExclude (e : GlobError)
  | globSet (flaw : Glob.SetFlaw)
  /-- A configuration that extends itself, directly or through others. -/
  | circularExtends (path : Path)
  | missingConfig (path : Path)
  | ruleOptions (rule : String) (e : DecodeError)
  | rulePattern (rule : String) (flaw : Regex.Flaw)
  | invalidProjectJson (path : Path) (flaw : Json.Flaw)
  | invalidProject (path : Path) (e : DecodeError)
  | invalidProjectGlob (e : GlobError)
  /-- A problem of a file that is read on the way. -/
  | within (path : Path) (p : Problem)
  /-- A problem that only an engine can explain. -/
  | other (message : String)
  deriving Repr

def Problem.message : Problem → String
  | .unreadableOptions path e => s!"Failed to read options {path.text}: {e.message}"
  | .unreadableConfig path e => s!"Failed to read config {path.text}: {e.message}"
  | .invalidJson flaw => s!"Invalid JSON: {flaw.message}"
  | .invalidOptions e => s!"Invalid options: {e.message}"
  | .schemaViolation v => s!"Config validation failed: {v.message}"
  | .invalidConfig e => s!"Invalid config: {e.message}"
  | .invalidExclude e => s!"Invalid exclude pattern: {e.message}"
  | .globSet flaw => s!"Failed to build globset: {flaw.reason}"
  | .circularExtends path => s!"Circular extends through {path.text}"
  | .missingConfig path => s!"Could not find config file '{path.text}'."
  | .ruleOptions rule e => s!"Rule '{rule}': {e.message}"
  | .rulePattern rule flaw => s!"Rule '{rule}': {flaw.message}"
  | .invalidProjectJson path flaw => s!"Invalid project {path.text}: {flaw.message}"
  | .invalidProject path e => s!"Invalid project {path.text}: {e.message}"
  | .invalidProjectGlob e => s!"Invalid project glob: {e.message}"
  | .within path p => s!"{path.text}: {p.message}"
  | .other message => message

end Autofix
