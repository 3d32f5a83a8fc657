/-!
# Patterns as they are written

The tree of a regular expression keeps the notation: flags, counted repetitions, classes in brackets
with their operations, properties by name. What a pattern means is said by `Autofix.Regex.Expr`.

A pattern may fail to be one in the ways that `Flaw` lists.
-/

namespace Autofix.Regex

/-- Why a text is not a pattern, or a pattern that no text can be matched against. -/
inductive Flaw where
  | classEscape
  | classRangeOrder
  | classRangeBoundary
  | classUnclosed
  | decimalInvalid
  | hexEmpty
  | hexInvalid
  | hexDigit
  | escapeUnfinished
  | escapeUnknown
  | flagDangling
  | flagDuplicate
  | flagNegatedTwice
  | flagUnfinished
  | flagUnknown
  | nameDuplicate
  | nameEmpty
  | nameInvalid
  | nameUnfinished
  | groupUnclosed
  | groupUnopened
  | nesting
  | countOrder
  | countMissing
  | countUnclosed
  | repetitionMissing
  | boundaryUnclosed
  | boundaryUnknown
  | boundaryUnfinished
  | propertyInvalid
  | backreference
  | lookAround
  | unicodeDisabled
  | invalidText
  | unknownProperty
  | unknownValue
  /-- A pattern that is too large when its repetitions are written out. -/
  | tooLarge
  deriving DecidableEq, Repr, Inhabited

/-- How deep groups, repetitions and classes may be nested. -/
def nestingLimit : Nat := 250

/-- The size, in bytes, that a pattern may have when its repetitions are written out. -/
def sizeLimit : Nat := 10485760

def Flaw.reason : Flaw → String
  | .classEscape => "invalid escape sequence found in character class"
  | .classRangeOrder => "invalid character class range, the start must be <= the end"
  | .classRangeBoundary => "invalid range boundary, must be a literal"
  | .classUnclosed => "unclosed character class"
  | .decimalInvalid => "decimal literal invalid"
  | .hexEmpty => "hexadecimal literal empty"
  | .hexInvalid => "hexadecimal literal is not a Unicode scalar value"
  | .hexDigit => "invalid hexadecimal digit"
  | .escapeUnfinished => "incomplete escape sequence, reached end of pattern prematurely"
  | .escapeUnknown => "unrecognized escape sequence"
  | .flagDangling => "dangling flag negation operator"
  | .flagDuplicate => "duplicate flag"
  | .flagNegatedTwice => "flag negation operator repeated"
  | .flagUnfinished => "expected flag but got end of regex"
  | .flagUnknown => "unrecognized flag"
  | .nameDuplicate => "duplicate capture group name"
  | .nameEmpty => "empty capture group name"
  | .nameInvalid => "invalid capture group character"
  | .nameUnfinished => "unclosed capture group name"
  | .groupUnclosed => "unclosed group"
  | .groupUnopened => "unopened group"
  | .nesting => s!"exceed the maximum number of nested parentheses/brackets ({nestingLimit})"
  | .countOrder => "invalid repetition count range, the start must be <= the end"
  | .countMissing => "repetition quantifier expects a valid decimal"
  | .countUnclosed => "unclosed counted repetition"
  | .repetitionMissing => "repetition operator missing expression"
  | .boundaryUnclosed =>
    "special word boundary assertion is either unclosed or contains an invalid character"
  | .boundaryUnknown =>
    "unrecognized special word boundary assertion, valid choices are: "
      ++ "start, end, start-half or end-half"
  | .boundaryUnfinished =>
    "found either the beginning of a special word boundary or a bounded "
      ++ "repetition on a \\b with an opening brace, but no closing brace"
  | .propertyInvalid => "invalid Unicode character class"
  | .backreference => "backreferences are not supported"
  | .lookAround => "look-around, including look-ahead and look-behind, is not supported"
  | .unicodeDisabled => "Unicode not allowed here"
  | .invalidText => "pattern can match invalid UTF-8"
  | .unknownProperty => "Unicode property not found"
  | .unknownValue => "Unicode property value not found"
  | .tooLarge => s!"Compiled regex exceeds size limit of {sizeLimit} bytes."

/-- The message of a flaw. A pattern that is well written and only too large is no error of
    notation. -/
def Flaw.message (f : Flaw) : String :=
  if f = .tooLarge then f.reason else "regex parse error: " ++ f.reason

/-- The flags that a pattern can set and clear. -/
inductive Flag where
  | ignoreCase
  | multiLine
  | dotMatchesLineEnd
  | swapGreed
  | unicode
  | carriageReturn
  | verbose
  deriving DecidableEq, Repr, Inhabited

/-- A flag and whether it is set or cleared. -/
abbrev FlagSetting := Flag × Bool

/-- Conditions on a place, as they are written. -/
inductive Anchor where
  | lineStart
  | lineEnd
  | textStart
  | textEnd
  | boundary
  | notBoundary
  | wordStart
  | wordEnd
  | wordStartHalf
  | wordEndHalf
  deriving DecidableEq, Repr, Inhabited

/-- The classes with a letter of their own. -/
inductive Shorthand where
  | digit
  | space
  | word
  deriving DecidableEq, Repr, Inhabited

/-- A class by a name, or by a property and its value. -/
inductive PropertyName where
  | plain (name : String)
  | valued (property value : String)
  deriving DecidableEq, Repr, Inhabited

/-- A character that stands for itself. `byte` says that it was written as a byte, with two
    hexadecimal digits. -/
structure Literal where
  char : Char
  byte : Bool := false
  deriving DecidableEq, Repr, Inhabited

/-- The operations between classes. -/
inductive ClassOp where
  | inter
  | diff
  | symmDiff
  deriving DecidableEq, Repr, Inhabited

/-- What stands between brackets. -/
inductive ClassTree where
  | literal (l : Literal)
  | range (lo hi : Literal)
  | posix (ranges : List (Nat × Nat)) (negated : Bool)
  | property (name : PropertyName) (negated : Bool)
  | shorthand (s : Shorthand) (negated : Bool)
  | nested (negated : Bool) (inner : ClassTree)
  | union (items : List ClassTree)
  | op (kind : ClassOp) (left right : ClassTree)
  deriving Repr, Inhabited

inductive Tree where
  | empty
  | flags (settings : List FlagSetting)
  | literal (l : Literal)
  | dot
  | anchor (a : Anchor)
  | property (name : PropertyName) (negated : Bool)
  | shorthand (s : Shorthand) (negated : Bool)
  | set (negated : Bool) (inner : ClassTree)
  | repetition (min : Nat) (max : Option Nat) (greedy : Bool) (inner : Tree)
  /-- A group that keeps what it matches, under its number. -/
  | capture (index : Nat) (inner : Tree)
  | group (settings : List FlagSetting) (inner : Tree)
  | alternation (branches : List Tree)
  | sequence (items : List Tree)
  deriving Repr, Inhabited

/-! ### Nesting -/

mutual

/-- How deep a class is nested. -/
def ClassTree.depth : ClassTree → Nat
  | .literal _ | .range _ _ | .posix _ _ | .property _ _ | .shorthand _ _ => 0
  | .nested _ inner => inner.depth + 1
  | .union items => depthMax items + 1
  | .op _ left right => max left.depth right.depth + 1

def ClassTree.depthMax : List ClassTree → Nat
  | [] => 0
  | t :: ts => max t.depth (depthMax ts)

end

mutual

/-- How deep a pattern is nested. -/
def Tree.depth : Tree → Nat
  | .empty | .flags _ | .literal _ | .dot | .anchor _ | .property _ _ | .shorthand _ _ => 0
  | .set _ inner => inner.depth + 1
  | .repetition _ _ _ inner => inner.depth + 1
  | .capture _ inner => inner.depth + 1
  | .group _ inner => inner.depth + 1
  | .alternation branches => depthMax branches + 1
  | .sequence items => depthMax items + 1

def Tree.depthMax : List Tree → Nat
  | [] => 0
  | t :: ts => max t.depth (depthMax ts)

end

end Autofix.Regex
