import Autofix.Glob
import Autofix.Regex.Parser

/-!
# Sets of globs

Globs that are looked up together make up a set. Most of them come down to comparing texts
(`Glob.comparesTexts`); the others are compiled, each one that asks for an extension on its own
(`Glob.asksForExtension`), and the rest all together. What is compiled may be nested and may take
bytes only up to a limit.

* `Glob.source` is the regular expression that a glob is compiled from;
* `Glob.setFlaw?` says why globs do not make up a set.
-/

namespace Autofix.Glob

/-! ### Expressions -/

/-- How a character stands in an expression, which is one of bytes. -/
def charSource (c : Char) : List Char :=
  (String.utf8EncodeChar c).flatMap fun b =>
    let b := b.toNat
    if 128 ≤ b then '\\' :: 'x' :: Nat.toDigits 16 b
    else if Regex.isMeta (Char.ofNat b) then ['\\', Char.ofNat b]
    else [Char.ofNat b]

def rangeSource (r : Char × Char) : List Char :=
  if r.1 = r.2 then charSource r.1 else charSource r.1 ++ '-' :: charSource r.2

mutual

/-- The expression of a part. -/
def Part.source (separate : Bool) : Part → List Char
  | .literal c => charSource c
  | .any => if separate then "[^/]".toList else ['.']
  | .star => if separate then "[^/]*".toList else ".*".toList
  | .anyDepth => "(?:/?|.*/)".toList
  | .descend => "/.*".toList
  | .between => "(?:/|/.*/)".toList
  | .set negated ranges =>
    '[' :: (if negated then ['^'] else []) ++ ranges.flatMap rangeSource ++ [']']
  | .choice branches =>
    if allVoid branches then []
    else "(?:".toList ++ List.intercalate ['|'] (branchSources separate branches) ++ [')']

def partsSource (separate : Bool) : List Part → List Char
  | [] => []
  | p :: ps => p.source separate ++ partsSource separate ps

/-- The expressions of the branches that say something. -/
def branchSources (separate : Bool) : List (List Part) → List (List Char)
  | [] => []
  | ps :: rest =>
    if partsVoid ps then branchSources separate rest
    else partsSource separate ps :: branchSources separate rest

end

/-- The expression of a glob. -/
def source (g : Glob) : String :=
  let body := match g.parts with
    | [.anyDepth] => ".*".toList
    | parts => partsSource g.separate parts
  String.ofList ("(?-u)^".toList ++ body ++ ['$'])

/-! ### Nesting -/

/-- How many single bytes and ranges of bytes ranges of characters put into a set. -/
def memberCount : List (Char × Char) → Nat
  | [] => 0
  | r :: rs =>
    (if r.1 = r.2 then r.1.utf8Size else r.1.utf8Size + r.2.utf8Size - 1) + memberCount rs

/-- How many expressions in a row a part comes to. -/
def Part.width : Part → Nat
  | .literal c => c.utf8Size
  | .descend => 2
  | .choice branches => if allVoid branches then 0 else 1
  | _ => 1

def partsWidth : List Part → Nat
  | [] => 0
  | p :: ps => p.width + partsWidth ps

mutual

/-- How deep the expression of a part is nested. -/
def Part.depth (separate : Bool) : Part → Nat
  | .literal _ => 0
  | .any => if separate then 1 else 0
  | .star => if separate then 2 else 1
  | .anyDepth | .between => 4
  | .descend => 1
  | .set _ ranges => if memberCount ranges = 1 then 1 else 2
  | .choice branches =>
    match branchDepths separate branches with
    | [] => 0
    | [depth] => depth + 1
    | depths => depths.foldl max 0 + 2

/-- How deep the deepest one of several parts in a row is nested. -/
def partsDepth (separate : Bool) : List Part → Nat
  | [] => 0
  | p :: ps => max (p.depth separate) (partsDepth separate ps)

def branchDepths (separate : Bool) : List (List Part) → List Nat
  | [] => []
  | ps :: rest =>
    if partsVoid ps then branchDepths separate rest
    else (partsDepth separate ps + if partsWidth ps = 1 then 0 else 1) ::
      branchDepths separate rest

end

/-- How deep the expression of a glob is nested. -/
def depth (g : Glob) : Nat := partsDepth g.separate g.parts + 1

/-! ### Size -/

mutual

/-- About how many bytes the expression of a part takes. -/
def Part.weight (separate : Bool) : Part → Nat
  | .literal c => 32 * c.utf8Size
  | .any => if separate then 80 else 72
  | .star => if separate then 120 else 112
  | .anyDepth => 320
  | .descend => 144
  | .between => 280
  | .set negated ranges => 64 + 8 * memberCount ranges + if negated then 8 else 0
  | .choice branches => 64 + branchesWeight separate branches

def partsWeight (separate : Bool) : List Part → Nat
  | [] => 0
  | p :: ps => p.weight separate + partsWeight separate ps

def branchesWeight (separate : Bool) : List (List Part) → Nat
  | [] => 0
  | ps :: rest => 4 + partsWeight separate ps + branchesWeight separate rest

end

/-- About how many bytes the expression of a glob takes, with what marks its start and its end. -/
def weight (g : Glob) : Nat := partsWeight g.separate g.parts + 164

def totalWeight : List Glob → Nat
  | [] => 0
  | g :: gs => g.weight + totalWeight gs

/-! ### Strategies -/

/-- A sequence of characters. -/
def allLiteral (ps : List Part) : Bool := ps.all fun p => p.literal?.isSome

/-- The parts of a glob after a `**/` at its start. -/
def afterDepth : List Part → List Part
  | .anyDepth :: rest => rest
  | parts => parts

/-- Whether a glob is one text, or one below any folder. -/
def isText (g : Glob) : Bool := !(afterDepth g.parts).isEmpty && allLiteral (afterDepth g.parts)

/-- Whether a glob asks for a text at the start of a path and no more. -/
def isStart (g : Glob) : Bool :=
  match g.parts.getLast? with
  | some .star => !g.separate && 1 < g.parts.length && allLiteral g.parts.dropLast
  | some .descend => allLiteral g.parts.dropLast
  | _ => false

/-- Whether a glob asks for a text at the end of a path and no more, which may have to be the
    extension of a file in any folder. -/
def isEnd (g : Glob) : Bool :=
  match afterDepth g.parts with
  | .star :: rest =>
    let ending := rest.filterMap Part.literal?
    let isExtension := ending.head? = some '.'
      && !ending.tail.any fun c => c = '.' || c = '/'
    allLiteral rest && ((!g.separate && ending ≠ [] && ending ≠ ['/'])
      || ((afterDepth g.parts).length < g.parts.length && isExtension))
  | _ => false

/-- Whether a glob is looked up by comparing texts. -/
def comparesTexts (g : Glob) : Bool := g.isText || g.isStart || g.isEnd

/-- Whether a glob ends in an extension that it is looked up by. -/
def asksForExtension (g : Glob) : Bool :=
  let inExtension := fun p : Part => p.literal?.any fun c => c ≠ '.' && c ≠ '/'
  (g.parts.reverse.dropWhile inExtension).head?.bind Part.literal? = some '.'

/-- The globs of a list that are compiled each on its own. -/
def alone (gs : List Glob) : List Glob :=
  gs.filter fun g => !g.comparesTexts && g.asksForExtension

/-- The globs of a list that are compiled together. -/
def together (gs : List Glob) : List Glob :=
  gs.filter fun g => !g.comparesTexts && !g.asksForExtension

/-! ### Flaws -/

/-- Why globs do not make up a set. -/
inductive SetFlaw where
  /-- Expressions are counted from zero. -/
  | tooDeep (index : Nat)
  | tooLarge
  /-- The flaw of an expression that is compiled on its own. -/
  | alone (source : String) (flaw : SetFlaw)
  deriving DecidableEq, Repr

def SetFlaw.reason : SetFlaw → String
  | .tooDeep index => s!"error parsing pattern {index}"
  | .tooLarge => "error building NFA"
  | .alone source flaw => s!"error parsing glob '{source}': {flaw.reason}"

/-- Why the expressions of globs cannot be compiled together, if they cannot. -/
def compileFlaw? (gs : List Glob) : Option SetFlaw :=
  match gs.findIdx? fun g => Regex.nestingLimit < g.depth with
  | some index => some (.tooDeep index)
  | none => if Regex.sizeLimit < totalWeight gs then some .tooLarge else none

/-- Why globs do not make up a set, if they do not. -/
def setFlaw? (gs : List Glob) : Option SetFlaw :=
  ((alone gs).findSome? fun g => (compileFlaw? [g]).map (.alone g.source)).or
    (compileFlaw? (together gs))

/-- Globs that make up a set. -/
def asSet (gs : List Glob) : Except SetFlaw (List Glob) :=
  match setFlaw? gs with
  | some flaw => .error flaw
  | none => .ok gs

end Autofix.Glob
