import Autofix.Diagnostic
import Autofix.Report.Format
import Autofix.World

/-!
# Engines

An engine is what lints: it finds a configuration, lints one file after the other, with fixes where
it can make them, and tells in the end what it found. Runs know engines only by `Engine`, so that
any of them may be plugged in.
-/

namespace Autofix

/-- How an engine is to lint. -/
structure EngineSettings where
  /-- Whether fixes are written to the files. -/
  fix : Bool := true
  /-- The name of the report format that is asked for. -/
  format : String := Format.standard.name
  deriving DecidableEq, Repr, Inhabited

/-- Where a configuration comes from. -/
inductive ConfigSource where
  /-- A configuration file, seen from a root. -/
  | file (path root : Path)
  /-- A folder to look for a configuration in, or a configuration file. -/
  | search (path : Path)
  /-- The nearest configuration above a linted file. -/
  | nearest (file : Path)
  deriving DecidableEq, Repr, Inhabited

/-- The path that a source points at. -/
def ConfigSource.path : ConfigSource → Path
  | .file path root => root.join path
  | .search path => path
  | .nearest path => path

/-- Makes the text of a report from failures and fixes. -/
abbrev Formatter := List Diagnostic → List Diagnostic → String

/-- An engine with states `σ` and configurations `κ`. -/
structure Engine (σ κ : Type) where
  /-- Comes before any file is linted. -/
  prepare : EngineSettings → σ → σ
  load : ConfigSource → Run σ κ
  /-- Lints the given text of a file. -/
  lint : Path → String → κ → Run σ Unit
  /-- Everything found and fixed so far. -/
  result : σ → LintResult
  findFormatter : String → σ → Option Formatter × σ

end Autofix
