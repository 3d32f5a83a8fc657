import Autofix.Problem
import Autofix.Regex
import Autofix.Rule

/-!
# Pattern rules

A rule that a configuration declares by a regular expression: every match that is not empty is a
finding. With a replacement the finding can be fixed, unless the replacement comes to the text that
is there already.
-/

namespace Autofix

structure PatternRule where
  name : String
  regex : Regex
  replacement : Option String
  message : String
  deriving Inhabited

namespace PatternRule

/-- The options that a pattern rule looks at. -/
structure Options where
  pattern : String
  replacement : Option String
  message : Option String
  deriving DecidableEq, Repr, Inhabited

/-- Other options are left alone. -/
def Options.decode : Decoder Options :=
  let what := "struct PatternOptions with 3 elements"
  decodeRecord "PatternOptions" ["pattern", "replacement", "message"]
    ((none, none, none) : Option String × Option String × Option String)
    (fun (pattern, replacement, message) name v => do
      if name = "pattern" then return (some (← Decoder.string v), replacement, message)
      else if name = "replacement" then
        return (pattern, ← Decoder.option Decoder.string v, message)
      else return (pattern, replacement, ← Decoder.option Decoder.string v))
    ignoreField
    fun shape (pattern, replacement, message) => do
      return ⟨← shape.need what 0 "pattern" pattern, replacement, message⟩

/-- The rule that the options of a rule declare. Options without a pattern declare none. -/
def ofOptions? (name : String) (options : Json) : Except Problem (Option PatternRule) := do
  if (options.field? "pattern").isNone then return none
  else
    let o ← (Options.decode options).mapError (.ruleOptions name)
    let regex ← (Regex.ofText? o.pattern).mapError (.rulePattern name)
    return some {
      name := name
      regex := regex
      replacement := o.replacement
      message := o.message.getD s!"Matches forbidden pattern /{o.pattern}/" }

/-- The finding for a match. -/
def failure (r : PatternRule) (text : List Char) (m : Regex.Match) : Finding :=
  let span := Span.mk m.start m.stop
  let fix := r.replacement.bind fun template =>
    let new := r.regex.expand template text m
    if some new = Text.slice? text m.start m.stop then none
    else some (Fix.mk span (String.ofList new))
  ⟨span, r.message, fix⟩

/-- The findings in a text. -/
def failures (r : PatternRule) (content : String) : List Finding :=
  let text := content.toList
  ((r.regex.findAll text).filter fun m => m.start ≠ m.stop).map (r.failure text)

def toRule (r : PatternRule) : Rule := ⟨r.name, fun _ content _ => r.failures content⟩

end PatternRule

end Autofix
