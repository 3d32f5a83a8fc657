import Autofix.Regex.Expr
import Autofix.Regex.Parser

/-!
# From trees to expressions

The tree of a pattern is read once more, with the flags in force at each place. A flag set inside a
group holds up to the end of the group, in the branches that follow, too. Classes are closed under
case, if that is to be ignored, before they are negated.

Without Unicode, classes hold bytes, so that no class may reach beyond ASCII, where a byte is only
part of a character.
-/

namespace Autofix.Regex

open Unicode

/-- The flags in force. -/
structure Flags where
  ignoreCase : Bool := false
  multiLine : Bool := false
  dotMatchesLineEnd : Bool := false
  swapGreed : Bool := false
  unicode : Bool := true
  carriageReturn : Bool := false
  deriving DecidableEq, Repr, Inhabited

def Flags.set (f : Flags) : FlagSetting → Flags
  | (.ignoreCase, v) => { f with ignoreCase := v }
  | (.multiLine, v) => { f with multiLine := v }
  | (.dotMatchesLineEnd, v) => { f with dotMatchesLineEnd := v }
  | (.swapGreed, v) => { f with swapGreed := v }
  | (.unicode, v) => { f with unicode := v }
  | (.carriageReturn, v) => { f with carriageReturn := v }
  | (.verbose, _) => f

def Flags.setAll (f : Flags) (settings : List FlagSetting) : Flags := settings.foldl Flags.set f

/-- The flags that hold in the patterns of rules before the first one is written: anchors know
    lines. -/
def Flags.initial : Flags := { multiLine := true }

/-- The complement of a set of bytes. -/
def bytesCompl (s : CodeSet) : CodeSet := s.compl.inter (CodeSet.range 0 255)

/-- Whether a set of bytes holds ASCII alone. -/
def isAscii (s : CodeSet) : Bool := s.ranges.all fun r => r.2 < 128

/-- Closes a class under case, if that is ignored, and then negates it, if asked to. -/
def foldAndNegate (f : Flags) (negated : Bool) (s : CodeSet) : Except Flaw CodeSet :=
  if f.unicode then
    let s := if f.ignoreCase then s.caseClosure else s
    .ok (if negated then s.compl else s)
  else
    let s := if f.ignoreCase then s.asciiCaseClosure else s
    let s := if negated then bytesCompl s else s
    if isAscii s then .ok s else .error .invalidText

def propertySet (f : Flags) (name : PropertyName) (negated : Bool) : Except Flaw CodeSet :=
  if !f.unicode then .error .unicodeDisabled
  else
    let found := match name with
      | .plain name => Class.named name
      | .valued property value => Class.valued property value
    match found with
    | .ok s => foldAndNegate f negated s
    | .error .property => .error .unknownProperty
    | .error .value => .error .unknownValue

def shorthandSet (f : Flags) (s : Shorthand) (negated : Bool) : Except Flaw CodeSet :=
  if f.unicode then
    let set := match s with
      | .digit => decimal
      | .space => whitespace
      | .word => word
    .ok (if negated then set.compl else set)
  else
    let ranges := match s with
      | .digit => [(48, 57)]
      | .space => [(9, 13), (32, 32)]
      | .word => [(48, 57), (65, 90), (95, 95), (97, 122)]
    let set := CodeSet.ofRanges ranges
    let set := if negated then bytesCompl set else set
    if isAscii set then .ok set else .error .invalidText

/-- A member of a class; without Unicode it has to be a byte. -/
def literalCode (f : Flags) (l : Literal) : Except Flaw Nat :=
  if f.unicode ∨ l.char.toNat < 128 then .ok l.char.toNat
  else if l.byte then .error .invalidText
  else .error .unicodeDisabled

/-- Adds the members of a part of a class to those of the parts before it. -/
def classSet (f : Flags) : ClassTree → CodeSet → Except Flaw CodeSet
  | .literal l, before => do
    let n ← literalCode f l
    return before.union (CodeSet.range n n)
  | .range lo hi, before => do
    let a ← literalCode f lo
    let b ← literalCode f hi
    return before.union (CodeSet.range a b)
  | .posix ranges negated, before => do
    return before.union (← foldAndNegate f negated (CodeSet.ofRanges ranges))
  | .property name negated, before => return before.union (← propertySet f name negated)
  | .shorthand s negated, before => return before.union (← shorthandSet f s negated)
  | .nested negated inner, before => do
    return before.union (← foldAndNegate f negated (← classSet f inner CodeSet.empty))
  | .union items, before => classSetAll items before
  | .op kind left right, before => do
    let fold := fun (s : CodeSet) =>
      if !f.ignoreCase then s else if f.unicode then s.caseClosure else s.asciiCaseClosure
    let l := fold (← classSet f left CodeSet.empty)
    let r := fold (← classSet f right CodeSet.empty)
    return before.union <| match kind with
      | .inter => l.inter r
      | .diff => l.diff r
      | .symmDiff => l.symmDiff r
where
  /-- Adds the members of several parts. -/
  classSetAll : List ClassTree → CodeSet → Except Flaw CodeSet
    | [], before => .ok before
    | t :: ts, before => do classSetAll ts (← classSet f t before)

/-- A single character, with its other cases if case is ignored. -/
def literalExpr (f : Flags) (l : Literal) : Except Flaw Expr :=
  if !f.unicode ∧ l.byte ∧ 128 ≤ l.char.toNat then .error .invalidText
  else
    let s := CodeSet.single l.char
    .ok <| .set <|
      if !f.ignoreCase then s else if f.unicode then s.caseClosure else s.asciiCaseClosure

def dotExpr (f : Flags) : Except Flaw Expr :=
  if !f.unicode then .error .invalidText
  else if f.dotMatchesLineEnd then .ok (.set CodeSet.full)
  else if f.carriageReturn then .ok (.set (CodeSet.ofChars ['\n', '\r']).compl)
  else .ok (.set (CodeSet.single '\n').compl)

def anchorLook (f : Flags) : Anchor → Look
  | .lineStart =>
    if !f.multiLine then .textStart else if f.carriageReturn then .anyLineStart else .lineStart
  | .lineEnd =>
    if !f.multiLine then .textEnd else if f.carriageReturn then .anyLineEnd else .lineEnd
  | .textStart => .textStart
  | .textEnd => .textEnd
  | .boundary => .boundary f.unicode
  | .notBoundary => .notBoundary f.unicode
  | .wordStart => .wordStart f.unicode
  | .wordEnd => .wordEnd f.unicode
  | .wordStartHalf => .wordStartHalf f.unicode
  | .wordEndHalf => .wordEndHalf f.unicode

mutual

/-- The expression of a tree, together with the flags that hold after it. -/
def Tree.meaning (f : Flags) : Tree → Except Flaw (Expr × Flags)
  | .empty => .ok (.empty, f)
  | .flags settings => .ok (.empty, f.setAll settings)
  | .literal l => (literalExpr f l).map fun e => (e, f)
  | .dot => (dotExpr f).map fun e => (e, f)
  | .anchor a => .ok (.look (anchorLook f a), f)
  | .property name negated => (propertySet f name negated).map fun s => (.set s, f)
  | .shorthand s negated => (shorthandSet f s negated).map fun s => (.set s, f)
  | .set negated inner => do
    let s ← classSet f inner CodeSet.empty
    return (.set (← foldAndNegate f negated s), f)
  | .repetition min max greedy inner => do
    let (e, f) ← inner.meaning f
    return (Expr.repeated min max (greedy != f.swapGreed) e, f)
  | .capture index inner => do
    let (e, _) ← inner.meaning f
    return (.group index e, f)
  | .group settings inner => do
    let (e, _) ← inner.meaning (f.setAll settings)
    return (e, f)
  | .alternation branches => branchesMeaning f branches
  | .sequence items => itemsMeaning f items

/-- Several branches, tried in order. -/
def Tree.branchesMeaning (f : Flags) : List Tree → Except Flaw (Expr × Flags)
  | [] => .ok (.empty, f)
  | [t] => t.meaning f
  | t :: ts => do
    let (a, f) ← t.meaning f
    let (b, f) ← branchesMeaning f ts
    return (.alt a b, f)

/-- Several parts, one after the other. -/
def Tree.itemsMeaning (f : Flags) : List Tree → Except Flaw (Expr × Flags)
  | [] => .ok (.empty, f)
  | [t] => t.meaning f
  | t :: ts => do
    let (a, f) ← t.meaning f
    let (b, f) ← itemsMeaning f ts
    return (.seq a b, f)

end

end Autofix.Regex
