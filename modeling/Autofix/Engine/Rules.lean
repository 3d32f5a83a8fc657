import Autofix.Config
import Autofix.Engine
import Autofix.Fixing
import Autofix.Rule.Pattern

/-!
# The rule engine

The engine that runs the rules of a registry, as a configuration asks for them, and the pattern
rules that the configuration declares itself.

* `Ruleset.ofConfig` picks the rules that run;
* `Ruleset.check` is what they find in a text, in the order of spans;
* `RuleEngine.lint` fixes a file once and records what is left.
-/

namespace Autofix

/-- A rule that runs. -/
structure ConfiguredRule where
  name : String
  severity : Severity
  options : Json
  pattern : Option PatternRule
  deriving Inhabited

/-- A configuration and the rules that run under it. -/
structure Ruleset where
  config : LintConfig
  active : List ConfiguredRule
  deriving Inhabited

namespace Ruleset

def ruleNames (c : Ruleset) : List String := c.active.map (·.name)

/-- The rules that run, out of those that are on: those that declare a pattern, and those in the
    registry. -/
def pick (registry : Registry) :
    List (String × RuleSetting) → Traced LintError (List ConfiguredRule)
  | [] => return []
  | (name, setting) :: rest => do
    let options := setting.optionsOf
    let pattern ← Traced.ofExcept ((PatternRule.ofOptions? name options).mapError .config)
    if pattern.isNone && (Dictionary.get? registry name).isNone then
      Traced.note (.warn s!"Unknown rule '{name}' ignored")
      pick registry rest
    else
      return ⟨name, setting.severityOf, options, pattern⟩ :: (← pick registry rest)

def ofConfig (registry : Registry) (config : LintConfig) : Traced LintError Ruleset := do
  let c := Ruleset.mk config (← pick registry config.rulesOn)
  Traced.note (.debug s!"Active rules: {Text.quotedList c.ruleNames}")
  return c

/-- Reads the configuration file that a source leads to. Without any file near a linted one, there
    is the empty configuration. -/
def read (d : Disk) : ConfigSource → Traced LintError LintConfig
  | .file path root =>
    let file := root.join path
    if d.isFile file then (LintConfig.ofFile d file).mapError .config
    else .fail (.config (.missingConfig file))
  | .search path =>
    match LintConfig.findAt d path with
    | some file => (LintConfig.ofFile d file).mapError .config
    | none => .fail .missingConfiguration
  | .nearest path =>
    match LintConfig.findNearest d path with
    | some file => (LintConfig.ofFile d file).mapError .config
    | none => do
      Traced.note (.debug s!"No configuration found for {path.text}, using defaults")
      return {}

/-- The rules that run under the configuration that a source leads to. -/
def load (registry : Registry) (d : Disk) (source : ConfigSource) :
    Traced LintError Ruleset := do
  ofConfig registry (← read d source)

/-- The rule behind an active one: the pattern it declares, or else the one of its name. -/
def ruleOf? (registry : Registry) (a : ConfiguredRule) : Option Rule :=
  match a.pattern with
  | some p => some p.toRule
  | none => Dictionary.get? registry a.name

/-- A finding of an active rule as a diagnostic. -/
def diagnostic (path : Path) (text : List Char) (a : ConfiguredRule) (f : Finding) : Diagnostic :=
  { path, ruleId := a.name, message := f.message, span := f.span,
    loc := some (Location.ofSpan text f.span), severity := a.severity, fix := f.fix }

/-- What an active rule finds in a text. -/
def findings (registry : Registry) (path : Path) (content : String) (a : ConfiguredRule) :
    List Diagnostic :=
  match ruleOf? registry a with
  | some rule => (rule.check path content a.options).map (diagnostic path content.toList a)
  | none => []

/-- What all rules find in a text, in the order of spans; findings of one span are in the order of
    the names of their rules. -/
def check (registry : Registry) (c : Ruleset) (path : Path) (content : String) :
    List Diagnostic :=
  (c.active.flatMap (findings registry path content)).mergeSort
    fun a b => (a.span.compare b.span).isLE

end Ruleset

/-- The state of the rule engine. -/
structure RuleEngine where
  registry : Registry := []
  options : EngineSettings := {}
  /-- What has been found and not been fixed. -/
  failures : List Diagnostic := []
  fixes : List Diagnostic := []

namespace RuleEngine

def result (e : RuleEngine) : LintResult := ⟨e.failures, e.fixes⟩

/-- Records what is left in a file. -/
def record (failures : List Diagnostic) : Run RuleEngine Unit :=
  modify fun w => { w with engine := { w.engine with failures := w.engine.failures ++ failures } }

/-- Records what has been fixed in a file. -/
def recordFixes (fixes : List Diagnostic) : Run RuleEngine Unit :=
  modify fun w => { w with engine := { w.engine with fixes := w.engine.fixes ++ fixes } }

/-- Lints a file that is not left out. If there is a fix to make, the fixed text is written and
    checked again, and what is found then is what is left. A replacement that cannot be made ends
    the run before anything is written. -/
def lintText (path : Path) (content : String) (c : Ruleset) : Run RuleEngine Unit := do
  let engine := (← get).engine
  let failures := c.check engine.registry path content
  if engine.options.fix && failures.any (·.fix.isSome) then
    Run.notes (Fixing.trace content failures)
    match Fixing.apply content failures with
    | none => throw (.misplacedFix path)
    | some fixed =>
      if fixed.modified then
        Run.write path fixed.content
        Run.note (.debug s!"Applied {fixed.applied.length} fixes to {path.text}")
        recordFixes fixed.applied
        record (c.check engine.registry path fixed.content)
      else record failures
  else record failures

/-- Lints a file, unless the configuration leaves it out. -/
def lint (path : Path) (content : String) (c : Ruleset) : Run RuleEngine Unit :=
  if c.config.excludes path then Run.note (.debug s!"Excluded by configuration: {path.text}")
  else lintText path content c

end RuleEngine

/-- The rule engine as an engine of runs. It knows the report formats of this library. -/
def ruleEngine : Engine RuleEngine Ruleset where
  prepare options e := { e with options := options }
  load source := do
    let registry := (← get).engine.registry
    Run.read fun d => Ruleset.load registry d source
  lint := RuleEngine.lint
  result := RuleEngine.result
  findFormatter name e := ((Format.ofName? name).map Format.render, e)

end Autofix
