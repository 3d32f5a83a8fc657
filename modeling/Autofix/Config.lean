import Autofix.Config.RuleSetting
import Autofix.Problem
import Autofix.TaskOptions
import Autofix.Traced

/-!
# Lint configurations

A configuration gives settings to rules and says which files to leave out. It may extend others: the
settings of those come first, in their order, and its own ones replace them.

* `LintConfig.ofText` reads a document on its own, `LintConfig.ofFile` a file with all that it
  extends, directly or through others;
* `LintConfig.excludes` says whether a file is left out;
* `LintConfig.findAt` finds the configuration of a folder, `LintConfig.findNearest` the nearest one
  above a file.
-/

namespace Autofix

structure LintConfig where
  /-- The schema that the document names; it is not looked at. -/
  schema : Option String := none
  extending : Option OneOrMany := none
  rules : Dictionary RuleSetting := []
  exclude : List Glob := []
  /-- The folder of the file that the configuration was read from. -/
  baseDir : Option Path := none
  deriving Repr, Inhabited

namespace LintConfig

/-! ### Reading a document -/

/-- What a document says, before its globs are read. -/
structure Document where
  schema : Option String := none
  extending : Option OneOrMany := none
  rules : Dictionary RuleSetting := []
  exclude : List String := []
  deriving Repr, Inhabited

namespace Document

def fieldNames : List String := ["$schema", "extends", "rules", "exclude"]

def decodeRules : Decoder (Dictionary RuleSetting)
  | .record fields => fields.mapM fun (name, v) => return (name, ← RuleSetting.decode v)
  | v => v.wrongType "a map"

/-- Reads the field of a name. -/
def takeField (c : Document) (name : String) (v : Json) : Except DecodeError Document := do
  if name = "$schema" then return { c with schema := ← Decoder.option Decoder.string v }
  else if name = "extends" then
    return { c with extending := ← Decoder.option OneOrMany.decode v }
  else if name = "rules" then return { c with rules := ← decodeRules v }
  else return { c with exclude := ← Decoder.list Decoder.string v }

/-- Every field may be left out. -/
def decode : Decoder Document :=
  decodeRecord "RuleConfig" fieldNames {} takeField ignoreField fun _ c => return c

end Document

/-- The globs of a list of texts, which make up a set. -/
def globs (texts : List String) : Except Problem (List Glob) := do
  let gs ← texts.mapM fun text => (Glob.ofText? false text).mapError .invalidExclude
  (Glob.asSet gs).mapError .globSet

/-- The configuration that a value holds, if the schema allows the value. -/
def ofJson (v : Json) : Except Problem LintConfig := do
  match Schema.config.violation? v with
  | some violation => throw (.schemaViolation violation)
  | none =>
    let c ← (Document.decode v).mapError .invalidConfig
    return { schema := c.schema, extending := c.extending, rules := c.rules,
             exclude := ← globs c.exclude }

/-- Reads a document. An empty document stands for the empty configuration. -/
def ofText (text : String) : Except Problem LintConfig := do
  match Json.read? text with
  | .error flaw => throw (.invalidJson flaw)
  | .ok v => ofJson (v.getD (.object []))

def toJson (c : LintConfig) : Json :=
  .record <|
    (c.extending.map fun v => ("extends", v.toJson)).toList
    ++ [("rules", .record (c.rules.map fun (name, s) => (name, s.toJson))),
      ("exclude", .ofList (fun g => .string g.text) c.exclude)]

/-! ### Extending -/

/-- A configuration with the rules and globs of another one put on top of its own. -/
def extendedBy (c other : LintConfig) : LintConfig :=
  { c with rules := Dictionary.merge c.rules other.rules, exclude := c.exclude ++ other.exclude }

/-- Reads the configurations that another one extends, each with `load`, and puts them together. -/
def loadParents (load : Path → Traced Problem LintConfig) (baseDir : Path) :
    LintConfig → List String → Traced Problem LintConfig
  | sofar, [] => return sofar
  | sofar, parent :: rest => do
    let c ← load (baseDir.join ⟨parent⟩)
    loadParents load baseDir (sofar.extendedBy c) rest

/-- What a file says on its own. -/
def readOwn (d : Disk) (path : Path) : Except Problem LintConfig := do
  let text ← (d.readText path).mapError (.unreadableConfig path)
  (ofText text).mapError (.within path)

theorem readOwn_eq_ok_iff {d : Disk} {path : Path} {own : LintConfig} : readOwn d path = .ok own ↔
    ∃ text, d.readText path = .ok text ∧ ofText text = .ok own := by
  simp only [readOwn, bind_eq_ok_iff, mapError_eq_ok_iff]

theorem isShort_of_readOwn {d : Disk} {path : Path} {own : LintConfig}
    (h : readOwn d path = .ok own) : path.isShort := by
  obtain ⟨text, hread, -⟩ := readOwn_eq_ok_iff.1 h
  exact Disk.isShort_of_readText hread

/-- The configuration of a file, with all that it extends. `visiting` holds the normal forms of the
    files on the way from the first one to this one; none of them may be met again. As only short
    paths can be read, such a way comes to an end. -/
def loadFrom (d : Disk) (visiting : List Path) (path : Path) : Traced Problem LintConfig :=
  if _hmet : path.normalize ∈ visiting then .fail (.circularExtends path)
  else match _hown : readOwn d path with
    | .error e => .fail e
    | .ok own => do
      let effective ← match own.extending with
        | none => pure own
        | some parents => do
          let load := fun parent => loadFrom d (path.normalize :: visiting) parent
          let inherited ← loadParents load path.folder {} parents.toList
          let all := inherited.extendedBy own
          pure { own with extending := none, rules := all.rules, exclude := all.exclude }
      let exclude ← Traced.ofExcept ((Glob.asSet effective.exclude).mapError .globSet)
      Traced.note (.debug s!"Loaded lint configuration {path.text}")
      return { effective with exclude, baseDir := some path.folder }
termination_by Path.unmet visiting
decreasing_by exact Path.unmet_cons_lt (isShort_of_readOwn _hown) _hmet

/-- The configuration of a file, with all that it extends. -/
def ofFile (d : Disk) (path : Path) : Traced Problem LintConfig := loadFrom d [] path

/-! ### Looking things up -/

/-- The rules that are on, by name. -/
def rulesOn (c : LintConfig) : Dictionary RuleSetting := c.rules.filter fun r => r.2.isEnabled

/-- Whether a file is left out. Its path is seen from the folder of the configuration if it starts
    with that folder. -/
def excludes (c : LintConfig) (path : Path) : Bool :=
  let relative := (c.baseDir.bind path.stripBase?).getD path
  Glob.anySelects c.exclude relative

/-- The names of configuration files, the preferred one first. -/
def fileNames : List String := ["lintfix.json", "lintfix.jsonc"]

/-- The configuration file in a folder. -/
def findIn (d : Disk) (dir : Path) : Option Path :=
  (fileNames.map fun name => dir.join ⟨name⟩).find? d.isFile

/-- The configuration file in a folder; a path to a file is taken as it is. -/
def findAt (d : Disk) (path : Path) : Option Path :=
  if d.isFile path then some path else findIn d path

/-- The nearest configuration file in the folder of a file or above it, else the one in the home
    directory. -/
def findNearest (d : Disk) (start : Path) : Option Path :=
  let dirs := (if d.isFile start then start.parent? else some start).elim [] Path.ancestors
  (dirs.findSome? (findIn d)).or (d.home.bind (findIn d))

end LintConfig

end Autofix
