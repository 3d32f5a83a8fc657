import Autofix.Command.Help
import Autofix.Engine.Rules
import Autofix.Engine.Run

/-!
# The command line

Three commands: `run` lints files and fixes them, `init` writes a configuration to start from, and
`formats` lists the report formats.

* `Command.ofArgs` reads what is asked for;
* `Command.perform` does it, on a disk: what comes out is an exit code, a text for the standard
  output, and the disk afterwards.
-/

namespace Autofix

namespace Command

/-! ### What can be asked for -/

def programName : String := "lintfix"

def version : String := "0.1.0"

def verbose : Flag := ⟨"verbose", some 'v', none, false, "Enable verbose output"⟩

/-- What may stand before the name of a command. -/
def rootGrammar : Grammar := ⟨[verbose], false, true⟩

def runGrammar : Grammar where
  flags := [
    ⟨"include", none, some ⟨"PATTERN", false⟩, true,
      "Include pattern, relative to the root (repeatable)"⟩,
    ⟨"config", some 'c', some ⟨"FILE", true⟩, false, "Lint configuration file"⟩,
    ⟨"rules-dir", none, some ⟨"DIR", true⟩, false,
      "Directory searched for a lint configuration"⟩,
    ⟨"project", some 'p', some ⟨"FILE", true⟩, false,
      "Compiler project file whose members are linted"⟩,
    verbose,
    ⟨"format", some 'f', some ⟨"FORMAT", false⟩, false,
      "Output format (prose, verbose, json, stylish)"⟩,
    ⟨"silent", none, none, false, "Do not print the report"⟩,
    ⟨"ignore-errors", none, none, false, "Succeed even when lint errors remain"⟩,
    ⟨"options", none, some ⟨"FILE", true⟩, false,
      "Task options file (JSON); flags override its values"⟩,
    ⟨"root", none, some ⟨"DIR", true⟩, false,
      "Root directory for relative paths (defaults to the current directory)"⟩]
  operands := true
  version := false

def initGrammar : Grammar :=
  ⟨[⟨"force", none, none, false, "Force overwrite existing config"⟩, verbose], false, false⟩

def formatsGrammar : Grammar := ⟨[verbose], false, false⟩

def rootPage : String :=
  helpPage "Lint files with autofix enabled and report the outcome"
    s!"{programName} [OPTIONS] <COMMAND>"
    [("Commands", [("run", "Lint and fix files"), ("init", "Write a starter lintfix.json"),
      ("formats", "List available output formats"),
      ("help", "Print this message or the help of the given subcommand(s)")]),
      ("Options", rootGrammar.flagRows)]

def runPage : String :=
  helpPage "Lint and fix files" s!"{programName} run [OPTIONS] [FILES]..."
    [("Arguments", [("[FILES]...", "Files to lint, relative to the root")]),
      ("Options", runGrammar.flagRows)]

def initPage : String :=
  helpPage "Write a starter lintfix.json" s!"{programName} init [OPTIONS]"
    [("Options", initGrammar.flagRows)]

def formatsPage : String :=
  helpPage "List available output formats" s!"{programName} formats [OPTIONS]"
    [("Options", formatsGrammar.flagRows)]

def helpCommandPage : String :=
  helpPage "Print this message or the help of the given subcommand(s)"
    s!"{programName} help [COMMAND]..."
    [("Arguments", [("[COMMAND]...", "Print help for the subcommand(s)")])]

/-- What the arguments of a run say. -/
structure RunSettings where
  files : List String := []
  includes : List String := []
  config : Option Path := none
  rulesDir : Option Path := none
  project : Option Path := none
  format : Option String := none
  silent : Bool := false
  ignoreErrors : Bool := false
  /-- A file of task options, whose values the other settings override. -/
  options : Option Path := none
  root : Option Path := none
  deriving DecidableEq, Repr, Inhabited

def RunSettings.ofArguments (args : List Argument) : RunSettings :=
  let path := fun (long : String) => (Argument.value? long args).map Path.mk
  { files := Argument.operands args
    includes := Argument.values "include" args
    config := path "config"
    rulesDir := path "rules-dir"
    project := path "project"
    format := Argument.value? "format" args
    silent := Argument.has "silent" args
    ignoreErrors := Argument.has "ignore-errors" args
    options := path "options"
    root := path "root" }

/-- What is asked for. -/
inductive Request where
  | run (s : RunSettings)
  | init (force : Bool)
  | formats
  | showText (text : String)
  deriving Repr, Inhabited

/-- A request, and whether remarks of all levels are wanted. -/
structure Invocation where
  request : Request
  isVerbose : Bool
  deriving Repr, Inhabited

/-- Reads the arguments of a command with a page of help. -/
def readCommand (g : Grammar) (page : String) (isVerbose : Bool) (request : List Argument → Request)
    (args : List String) : Except UsageError Invocation :=
  match g.read args with
  | .ok args => .ok ⟨request args, isVerbose || Argument.has "verbose" args⟩
  | .error .help => .ok ⟨.showText page, isVerbose⟩
  | .error .version => .ok ⟨.showText s!"{programName} {version}\n", isVerbose⟩
  | .error (.fault e) => .error e

/-- The page that the words after `help` ask for. -/
def helpOn : List String → Except UsageError String
  | [] => .ok rootPage
  | name :: rest => do
    let page ←
      if name = "run" then pure runPage
      else if name = "init" then pure initPage
      else if name = "formats" then pure formatsPage
      else if name = "help" then pure helpCommandPage
      else throw (.unknownCommand name)
    match rest with
    | [] => return page
    | more :: _ => throw (.unknownCommand more)

/-- Reads the name of a command and what follows it. -/
def named (isVerbose : Bool) : List String → Except UsageError Invocation
  | [] => .error .missingCommand
  | name :: args =>
    if name = "run" then
      readCommand runGrammar runPage isVerbose (fun a => .run (.ofArguments a)) args
    else if name = "init" then
      readCommand initGrammar initPage isVerbose (fun a => .init (Argument.has "force" a)) args
    else if name = "formats" then
      readCommand formatsGrammar formatsPage isVerbose (fun _ => .formats) args
    else if name = "help" then (helpOn args).map fun page => ⟨.showText page, isVerbose⟩
    else .error (.unknownCommand name)

/-- Reads what is asked for: flags, the name of a command, and its own arguments. -/
def ofArgs (args : List String) : Except UsageError Invocation := do
  let before := args.takeWhile Grammar.looksLikeFlag
  let root ← readCommand rootGrammar rootPage false (fun _ => .formats) before
  match root.request with
  | .showText _ => return root
  | _ =>
    if before.contains "--" then throw (.unexpected "--")
    else named root.isVerbose (args.drop before.length)

/-! ### Doing it -/

/-- What comes of a command. -/
structure Outcome where
  code : Nat
  output : String
  disk : Disk
  trace : Trace
  /-- What went wrong, if the command could not be carried out. -/
  complaint : Option String

/-- Everything is fine. -/
def success : Nat := 0

/-- Errors were found in the linted files. -/
def foundErrors : Nat := 1

/-- The command could not be carried out. -/
def failure : Nat := 2

/-- The task options of a run: those of the options file, if one is given, with the settings put in
    place of its values. -/
def RunSettings.taskOptions (d : Disk) (s : RunSettings) : Except Problem TaskOptions := do
  let base ← match s.options with
    | some path => TaskOptions.ofFile d path
    | none => pure {}
  return {
    lintConfigPath := s.config.or base.lintConfigPath
    lintRulesPath := s.rulesDir.or base.lintRulesPath
    compilerConfigPath := s.project.or base.compilerConfigPath
    explicitFiles := if s.files.isEmpty then base.explicitFiles else some (.many s.files)
    includePatterns := if s.includes.isEmpty then base.includePatterns else some (.many s.includes)
    outputFormat := s.format.or base.outputFormat
    silent := base.silent || s.silent
    ignoreErrors := base.ignoreErrors || s.ignoreErrors }

/-- A message as it is printed: it ends its line. -/
def printed (message : String) : String :=
  if message.toList.getLast? = some '\n' then message else message ++ "\n"

/-- Lints files. -/
def run (d : Disk) (s : RunSettings) : Outcome :=
  match s.taskOptions d with
  | .error p => ⟨failure, "", d, [], some (LintError.config p).message⟩
  | .ok options =>
    let root := s.root.getD d.currentPath
    let (result, w) := ruleEngine.run options root { disk := d, engine := {} }
    let (code, complaint) := match result with
      | .ok () => (success, none)
      | .error e => if e.isAboutFindings then (foundErrors, none) else (failure, some e.message)
    ⟨code, String.join (w.messages.map printed), w.disk, w.trace, complaint⟩

/-- The configuration to start from. -/
def initialConfig : String :=
  "\x7b
  \"rules\": \x7b
    \"no-trailing-whitespace\": \x7b
      \"pattern\": \"[ \\\\t]+$\",
      \"replacement\": \"\",
      \"message\": \"Trailing whitespace\"
    \x7d
  \x7d,
  \"exclude\": [\"node_modules/**\"]
\x7d
"

/-- The name of the file that `init` writes. -/
def initialPath : Path := ⟨"lintfix.json"⟩

/-- The disk with the configuration to start from. What is there already is only replaced when that
    is forced; a link is replaced itself, not what it points at. -/
def writeInitial (d : Disk) (force : Bool) : Except String Disk :=
  match d.createText initialPath initialConfig with
  | .ok d => .ok d
  | .error .alreadyThere =>
    if force then
      match d.remove initialPath with
      | .ok d => (d.createText initialPath initialConfig).mapError IoError.message
      | .error .notFound => (d.createText initialPath initialConfig).mapError IoError.message
      | .error e => .error e.message
    else .error s!"{initialPath.text} already exists. Use --force to overwrite."
  | .error e => .error e.message

def init (d : Disk) (force : Bool) : Outcome :=
  match writeInitial d force with
  | .ok d => ⟨success, "", d, [.info s!"Created {initialPath.text}"], none⟩
  | .error message => ⟨failure, "", d, [], some message⟩

/-- The report formats, one to a line. -/
def formatList : String :=
  String.join <| Format.all.map fun f =>
    if f = Format.standard then s!"{f.name} (default)\n" else s!"{f.name}\n"

def perform (d : Disk) : Request → Outcome
  | .run s => run d s
  | .init force => init d force
  | .formats => ⟨success, formatList, d, [], none⟩
  | .showText text => ⟨success, text, d, [], none⟩

end Command

end Autofix
