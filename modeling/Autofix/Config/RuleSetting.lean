import Autofix.Diagnostic
import Autofix.Json.Held

/-!
# Rule settings

What a configuration says about a rule: that it is on or off, how severe its findings are, or an
object with its options, one of which is the severity.
-/

namespace Autofix

inductive RuleSetting where
  | enabled (on : Bool)
  | severity (word : String)
  | options (v : Json)
  deriving Repr, Inhabited

namespace RuleSetting

/-- Reads a setting. What is neither a truth value nor a text holds options, which are taken over
    with what is held in them. -/
def decode : Decoder RuleSetting
  | .bool on => .ok (.enabled on)
  | .string word => .ok (.severity word)
  | v => match v.unwrapped? with
    | some v => .ok (.options v)
    | none => .error (.noVariant "RuleOption")

def toJson : RuleSetting → Json
  | .enabled on => .bool on
  | .severity word => .string word
  | .options v => v

/-- The word for the severity, if there is one. -/
def word? : RuleSetting → Option String
  | .enabled _ => none
  | .severity word => some word
  | .options v => (v.field? "severity").bind Json.asString?

/-- A rule is on unless it is switched off, by `false` or by the word `off`. -/
def isEnabled : RuleSetting → Bool
  | .enabled on => on
  | s => s.word? ≠ some "off"

/-- The severity of the findings of a rule; without a word that names one they are errors. -/
def severityOf (s : RuleSetting) : Severity := (s.word?.bind Severity.ofName?).getD .error

/-- The options of a rule, null if there are none. -/
def optionsOf : RuleSetting → Json
  | .options v => v
  | _ => .null

end RuleSetting

end Autofix
