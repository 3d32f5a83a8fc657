import Autofix.LintError
import Autofix.Report.Format

/-!
# Task options

What a run is to lint, where its configuration comes from, and how it reports.

* `TaskOptions.ofText` reads options from a JSON document, `TaskOptions.ofFile` from a file;
* `TaskOptions.toJson` writes them; what is not set is left out.
-/

namespace Autofix

/-- One text or a list of them: a setting that may be written either way. -/
inductive OneOrMany where
  | one (s : String)
  | many (ss : List String)
  deriving DecidableEq, Repr, Inhabited

namespace OneOrMany

def toList : OneOrMany → List String
  | .one s => [s]
  | .many ss => ss

def toJson : OneOrMany → Json
  | .one s => .string s
  | .many ss => .ofList .string ss

def decode : Decoder OneOrMany
  | .string s => .ok (.one s)
  | v =>
    match Decoder.list Decoder.string v with
    | .ok ss => .ok (.many ss)
    | .error _ => .error (.noVariant "OneOrMany")

end OneOrMany

structure TaskOptions where
  /-- A configuration file, relative to the root. -/
  lintConfigPath : Option Path := none
  /-- A folder to look for a configuration in, or a configuration file, relative to the root. -/
  lintRulesPath : Option Path := none
  /-- The project file whose members are linted when no files are given. -/
  compilerConfigPath : Option Path := none
  explicitFiles : Option OneOrMany := none
  /-- Patterns that select files below the root. -/
  includePatterns : Option OneOrMany := none
  outputFormat : Option String := none
  silent : Bool := false
  ignoreErrors : Bool := false
  deriving DecidableEq, Repr, Inhabited

namespace TaskOptions

def fieldNames : List String :=
  ["lintConfigPath", "lintRulesPath", "compilerConfigPath", "explicitFiles", "includePatterns",
    "outputFormat", "silent", "ignoreErrors"]

def toJson (o : TaskOptions) : Json :=
  .record <|
    (o.lintConfigPath.map fun p => ("lintConfigPath", p.toJson)).toList
    ++ (o.lintRulesPath.map fun p => ("lintRulesPath", p.toJson)).toList
    ++ (o.compilerConfigPath.map fun p => ("compilerConfigPath", p.toJson)).toList
    ++ (o.explicitFiles.map fun v => ("explicitFiles", v.toJson)).toList
    ++ (o.includePatterns.map fun v => ("includePatterns", v.toJson)).toList
    ++ (o.outputFormat.map fun s => ("outputFormat", .string s)).toList
    ++ [("silent", .bool o.silent), ("ignoreErrors", .bool o.ignoreErrors)]

/-- Reads the field of a name. -/
def takeField (o : TaskOptions) (name : String) (v : Json) : Except DecodeError TaskOptions := do
  if name = "lintConfigPath" then
    return { o with lintConfigPath := ← Decoder.option Path.decode v }
  else if name = "lintRulesPath" then
    return { o with lintRulesPath := ← Decoder.option Path.decode v }
  else if name = "compilerConfigPath" then
    return { o with compilerConfigPath := ← Decoder.option Path.decode v }
  else if name = "explicitFiles" then
    return { o with explicitFiles := ← Decoder.option OneOrMany.decode v }
  else if name = "includePatterns" then
    return { o with includePatterns := ← Decoder.option OneOrMany.decode v }
  else if name = "outputFormat" then
    return { o with outputFormat := ← Decoder.option Decoder.string v }
  else if name = "silent" then return { o with silent := ← Decoder.bool v }
  else return { o with ignoreErrors := ← Decoder.bool v }

/-- Every field may be left out, and no others are allowed. -/
def decode : Decoder TaskOptions :=
  decodeRecord "TaskOptions" fieldNames {} takeField (refuseField fieldNames) fun _ o => return o

/-- Reads options from a document. An empty document stands for the default ones. -/
def ofText (text : String) : Except Problem TaskOptions := do
  match Json.read? text with
  | .error flaw => throw (.invalidJson flaw)
  | .ok v => (decode (v.getD (.object []))).mapError .invalidOptions

def ofFile (d : Disk) (path : Path) : Except Problem TaskOptions := do
  ofText (← (d.readText path).mapError (.unreadableOptions path))

/-- The files that are given, in order. -/
def files (o : TaskOptions) : List String := o.explicitFiles.elim [] OneOrMany.toList

/-- The patterns that are given, in order. -/
def includes (o : TaskOptions) : List String := o.includePatterns.elim [] OneOrMany.toList

/-- The name of the report format that is asked for; an empty name asks for none. -/
def format (o : TaskOptions) : String :=
  match o.outputFormat with
  | some name => if name = "" then Format.standard.name else name
  | none => Format.standard.name

end TaskOptions

end Autofix
