import Autofix.Diagnostic
import Autofix.Dictionary

/-!
# Rules

A rule checks the text of one file and reports findings. `Registry` holds the rules that an engine
knows, by name.
-/

namespace Autofix

/-- What a rule finds at one place. -/
structure Finding where
  span : Span
  message : String
  fix : Option Fix
  deriving DecidableEq, Repr, Inhabited

structure Rule where
  name : String
  /-- The findings in a text. The value holds the options of the rule, null if there are none. -/
  check : Path → String → Json → List Finding

/-- Rules by name. -/
abbrev Registry := Dictionary Rule

namespace Registry

/-- Adds a rule, in place of one of the same name. -/
def register (r : Registry) (rule : Rule) : Registry := Dictionary.insert rule.name rule r

/-- How a registry is shown: the names of its rules. -/
def text (r : Registry) : String := Text.quotedList (Dictionary.names r)

end Registry

end Autofix
