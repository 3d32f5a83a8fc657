import Autofix.Engine
import Autofix.Engine.CurrentConfig
import Autofix.FileSet

/-!
# Runs

A run takes an engine from the options to an outcome. The files are determined; the engine lints
them one after the other, each under the configuration of its folder; and a report says what was
found. The report is made before the outcome is decided, so that it is there also when the run fails
because of what was found.

* `Engine.configFor` says where the configuration of a file comes from;
* `textToLint` is the text of a file;
* `Engine.lintAll` goes through the files, `Engine.report` makes the report;
* `Engine.run` does all of it.
-/

namespace Autofix

/-- The text to lint of a file, the one kept by the project if there is one. There is nothing to
    lint in an empty file. -/
def textToLint (d : Disk) (project : Option Project) (file : Path) :
    Except LintError (Option String) := do
  let text ← match project with
    | some project =>
      match project.textOf? file with
      | some text => pure text
      | none => throw (.fileNotInProject file project.path)
    | none => (SourceText.read d file).mapError fun _ => .unreadableFile file
  return if text = "" then none else some text

namespace Engine

variable {σ κ : Type} (engine : Engine σ κ) (options : TaskOptions) (root : Path)
  (project : Option Project)

/-- The configuration of a file: the given configuration file, else what is found in the given
    folder, else the nearest one above the file. -/
def configFor (file : Option Path) : Run σ κ :=
  match options.lintConfigPath with
  | some path => engine.load (.file path root)
  | none =>
    match options.lintRulesPath with
    | some path => engine.load (.search (root.join path))
    | none =>
      match file with
      | some file => engine.load (.nearest file)
      | none => throw .missingConfiguration

/-- Lints a file under a configuration. -/
def lintFile (config : κ) (file : Path) : Run σ Unit := do
  match ← Run.ofExcept (textToLint (← Run.disk) project file) with
  | none => Run.note (.debug s!"Skipping empty file {file.text}")
  | some text =>
    Run.note (.debug s!"Linting {file.text}")
    engine.lint file text config

/-- Lints the next file, given the configuration that is kept so far. What comes out is what is kept
    from then on. -/
def lintNext (current : CurrentConfig κ) (file : Path) : Run σ (CurrentConfig κ) := do
  let load : Run σ κ := engine.configFor options root (some file)
  let (config, current) ←
    current.forFile (m := Run σ) Run.note (ExceptT.lift load.run) file
  engine.lintFile project (← Run.ofExcept config) file
  return current

/-- Lints files in order, given the configuration that is kept so far. -/
def lintFrom : CurrentConfig κ → List Path → Run σ Nat
  | current, [] => return current.loads
  | current, file :: rest => do
    lintFrom (← engine.lintNext options root project current file) rest

/-- Lints files in order. What comes out is how many configurations were loaded. -/
def lintAll (files : List Path) : Run σ Nat := engine.lintFrom options root project {} files

/-- Hands over the text of a report, unless it is empty. -/
def log (text : String) : Run σ Unit := if text = "" then return else Run.log text

/-- Reports what the engine found, unless the options say to be silent, and decides the outcome. -/
def report : Run σ Unit := do
  let result := engine.result (← get).engine
  unless options.silent do
    let (formatter, state) := engine.findFormatter options.format (← get).engine
    modify fun w => { w with engine := state }
    match formatter with
    | some formatter => log (formatter result.failures result.fixes)
    | none => throw (.invalidFormat options.format)
  if !options.ignoreErrors && result.hasErrors then throw .lintErrorsFound

/-- Runs a task under a root. -/
def run : Run σ Unit := do
  let set ← Run.read fun d => FileSet.resolve d options root
  modify fun w => { w with engine := engine.prepare ⟨true, options.format⟩ w.engine }
  let loads ← engine.lintAll options root set.project set.files
  Run.note (.info s!"Linted {set.files.length} files with {loads} configuration loads")
  engine.report options

end Engine

end Autofix
