import Autofix.Regex.Tree
import Autofix.Unicode.Class

/-!
# Reading patterns

A pattern is read from left to right into a tree; the first flaw ends the reading. In verbose mode,
which a flag turns on, blanks and comments between the parts of a pattern are skipped.

* `Parsed.ofText?` reads a pattern, with the number and the names of its capturing groups.
-/

namespace Autofix.Regex

/-- The characters left to read, the mode of reading, and the capturing groups so far. -/
structure Reader where
  rest : List Char
  verbose : Bool := false
  groups : Nat := 0
  names : List (String × Nat) := []
  deriving Inhabited

/-- A step of reading. -/
abbrev Parse := StateT Reader (Except Flaw)

namespace Parse

def fail {α : Type} (f : Flaw) : Parse α := throw f

def peek : Parse (Option Char) := return (← get).rest.head?

/-- The character after the next one. -/
def peekSecond : Parse (Option Char) := return ((← get).rest.drop 1).head?

def advance : Parse Unit := modify fun s => { s with rest := s.rest.drop 1 }

/-- Skips blanks and comments, which end with their line. -/
def withoutBlanks (inComment : Bool) : List Char → List Char
  | [] => []
  | c :: cs =>
    if inComment then withoutBlanks (c ≠ '\n') cs
    else if Unicode.isWhitespace c then withoutBlanks false cs
    else if c = '#' then withoutBlanks true cs
    else c :: cs

/-- In verbose mode, skips blanks and comments. -/
def skipBlanks : Parse Unit :=
  modify fun s => if s.verbose then { s with rest := withoutBlanks false s.rest } else s

/-- Goes on to the next character that counts, and fails at the end of the pattern. -/
def next (atEnd : Flaw) : Parse Char := do
  advance
  skipBlanks
  match ← peek with
  | some c => return c
  | none => fail atEnd

/-- The first character after the next one, past blanks and the sign of a comment. -/
def peekPastBlanks : Parse (Option Char) := do
  let s ← get
  if !s.verbose then peekSecond
  else
    let blank := fun (c : Char) => Unicode.isWhitespace c
    match (s.rest.drop 1).dropWhile blank with
    | '#' :: cs => return (cs.dropWhile blank).head?
    | cs => return cs.head?

/-- Goes past a text if the pattern goes on with it. -/
def take? (text : String) : Parse Bool := do
  let s ← get
  if text.toList.isPrefixOf s.rest then
    set { s with rest := s.rest.drop text.length }
    return true
  else return false

end Parse

open Parse

/-! ### Escape sequences -/

def isMeta (c : Char) : Bool := "\\.+*?()|[]\x7b\x7d^$#&-~".toList.contains c

/-- Whether a character may follow a backslash without changing its meaning. -/
def isEscapable (c : Char) : Bool :=
  isMeta c || (c.toNat < 128 && !c.isAlphanum && c ≠ '<' && c ≠ '>')

def isHex (c : Char) : Bool :=
  c.isDigit || ('a' ≤ c && c ≤ 'f') || ('A' ≤ c && c ≤ 'F')

def hexValue (cs : List Char) : Nat :=
  cs.foldl (fun n c =>
    n * 16 + (if c.isDigit then c.toNat - 48 else if 'a' ≤ c then c.toNat - 87 else c.toNat - 55)) 0

/-- The character with a code point. -/
def scalar (n : Nat) : Parse Char :=
  if n < 0xD800 ∨ (0xE000 ≤ n ∧ n < 0x110000) then return Char.ofNat n else fail .hexInvalid

/-- Reads `count` more hexadecimal digits; the reader stands at the first one. -/
def hexDigits : Nat → Parse (List Char)
  | 0 => return []
  | count + 1 => do
    match ← peek with
    | none => fail .escapeUnfinished
    | some c =>
      if !isHex c then fail .hexDigit
      else
        advance
        skipBlanks
        return c :: (← hexDigits count)

/-- Reads hexadecimal digits up to a closing brace; the reader stands before the first one. -/
def hexInBraces : Nat → Parse (List Char)
  | 0 => fail .escapeUnfinished
  | fuel + 1 => do
    let c ← next .escapeUnfinished
    if c = '\x7d' then
      advance
      skipBlanks
      return []
    else if !isHex c then fail .hexDigit
    else return c :: (← hexInBraces fuel)

/-- A character by its code point, after `\x`, `\u` or `\U`; the reader stands at that letter. -/
def hexEscape (letter : Char) : Parse Literal := do
  let c ← next .escapeUnfinished
  if c = '\x7b' then
    let digits ← hexInBraces ((← get).rest.length + 1)
    if digits = [] then fail .hexEmpty
    return { char := ← scalar (hexValue digits) }
  else
    let digits ← hexDigits (if letter = 'x' then 2 else if letter = 'u' then 4 else 8)
    return { char := ← scalar (hexValue digits), byte := letter = 'x' }

/-- Reads the name of a property up to a closing brace. -/
def nameInBraces : Nat → Parse (List Char)
  | 0 => fail .escapeUnfinished
  | fuel + 1 => do
    let c ← next .escapeUnfinished
    if c = '\x7d' then
      advance
      return []
    else return c :: (← nameInBraces fuel)

/-- Cuts a list of characters at the first place where `sep` stands. -/
def cutAt? (sep : List Char) : List Char → Option (List Char × List Char)
  | [] => if sep = [] then some ([], []) else none
  | c :: cs =>
    if sep.isPrefixOf (c :: cs) then some ([], (c :: cs).drop sep.length)
    else (cutAt? sep cs).map fun (a, b) => (c :: a, b)

/-- A class by its name, after `\p` or `\P`; the reader stands at that letter. With `!=`, the class
    is negated once more. -/
def propertyEscape (negated : Bool) : Parse (PropertyName × Bool) := do
  let c ← next .escapeUnfinished
  if c = '\x7b' then
    let name ← nameInBraces ((← get).rest.length + 1)
    let valued := fun (parts : List Char × List Char) =>
      PropertyName.valued (String.ofList parts.1) (String.ofList parts.2)
    match cutAt? ['!', '='] name, cutAt? [':'] name, cutAt? ['='] name with
    | some parts, _, _ => return (valued parts, !negated)
    | none, some parts, _ => return (valued parts, negated)
    | none, none, some parts => return (valued parts, negated)
    | none, none, none => return (.plain (String.ofList name), negated)
  else if c = '\\' then fail .propertyInvalid
  else
    advance
    skipBlanks
    return (.plain (String.singleton c), negated)

def boundaryLetter (c : Char) : Bool := c.isAlpha || c = '-'

/-- Reads the letters of a boundary's name; the reader stands at the first one. -/
def boundaryName : Nat → Parse (List Char)
  | 0 => return []
  | fuel + 1 => do
    match ← peek with
    | none => return []
    | some c =>
      if !boundaryLetter c then return []
      else
        advance
        skipBlanks
        return c :: (← boundaryName fuel)

/-- The kind of boundary that may follow `\b` in braces. Braces that do not start with a letter are
    left for a repetition. -/
def boundaryKind? : Parse (Option Anchor) := do
  let start ← get
  let c ← next .boundaryUnfinished
  if !boundaryLetter c then
    set start
    return none
  let name ← boundaryName ((← get).rest.length + 1)
  if (← peek) ≠ some '\x7d' then fail .boundaryUnclosed
  advance
  match String.ofList name with
  | "start" => return some .wordStart
  | "end" => return some .wordEnd
  | "start-half" => return some .wordStartHalf
  | "end-half" => return some .wordEndHalf
  | _ => fail .boundaryUnknown

/-- What one character or escape sequence stands for. -/
inductive Primitive where
  | literal (l : Literal)
  | dot
  | anchor (a : Anchor)
  | property (name : PropertyName) (negated : Bool)
  | shorthand (s : Shorthand) (negated : Bool)
  deriving Inhabited

def Primitive.tree : Primitive → Tree
  | .literal l => .literal l
  | .dot => .dot
  | .anchor a => .anchor a
  | .property name negated => .property name negated
  | .shorthand s negated => .shorthand s negated

/-- An escape sequence; the reader stands at the backslash. -/
def escape : Parse Primitive := do
  advance
  let some c ← peek | fail .escapeUnfinished
  if c.isDigit then fail .backreference
  if c = 'x' ∨ c = 'u' ∨ c = 'U' then return .literal (← hexEscape c)
  if c = 'p' ∨ c = 'P' then
    let (name, negated) ← propertyEscape (c = 'P')
    return .property name negated
  advance
  if isEscapable c then return .literal { char := c }
  match c with
  | 'd' => return .shorthand .digit false
  | 'D' => return .shorthand .digit true
  | 's' => return .shorthand .space false
  | 'S' => return .shorthand .space true
  | 'w' => return .shorthand .word false
  | 'W' => return .shorthand .word true
  | 'a' => return .literal { char := '\x07' }
  | 'f' => return .literal { char := '\x0c' }
  | 't' => return .literal { char := '\t' }
  | 'n' => return .literal { char := '\n' }
  | 'r' => return .literal { char := '\r' }
  | 'v' => return .literal { char := '\x0b' }
  | 'A' => return .anchor .textStart
  | 'z' => return .anchor .textEnd
  | 'b' =>
    if (← peek) = some '\x7b' then return .anchor ((← boundaryKind?).getD .boundary)
    else return .anchor .boundary
  | 'B' => return .anchor .notBoundary
  | '<' => return .anchor .wordStart
  | '>' => return .anchor .wordEnd
  | _ => fail .escapeUnknown

def primitive (c : Char) : Parse Primitive := do
  match c with
  | '\\' => escape
  | '.' => advance; return .dot
  | '^' => advance; return .anchor .lineStart
  | '$' => advance; return .anchor .lineEnd
  | c => advance; return .literal { char := c }

/-! ### Classes in brackets -/

/-- The classes that may stand between `[:` and `:]`. -/
def posixClass? (name : String) : Option (List (Nat × Nat)) :=
  match name with
  | "alnum" => some [(48, 57), (65, 90), (97, 122)]
  | "alpha" => some [(65, 90), (97, 122)]
  | "ascii" => some [(0, 127)]
  | "blank" => some [(9, 9), (32, 32)]
  | "cntrl" => some [(0, 31), (127, 127)]
  | "digit" => some [(48, 57)]
  | "graph" => some [(33, 126)]
  | "lower" => some [(97, 122)]
  | "print" => some [(32, 126)]
  | "punct" => some [(33, 47), (58, 64), (91, 96), (123, 126)]
  | "space" => some [(9, 13), (32, 32)]
  | "upper" => some [(65, 90)]
  | "word" => some [(48, 57), (65, 90), (95, 95), (97, 122)]
  | "xdigit" => some [(48, 57), (65, 70), (97, 102)]
  | _ => none

/-- A named class `[:name:]`; when there is none, nothing is read. -/
def posix? : Parse (Option ClassTree) := do
  let s ← get
  match s.rest with
  | '[' :: ':' :: rest =>
    let (negated, rest) := match rest with
      | '^' :: rest => (true, rest)
      | rest => (false, rest)
    let name := rest.takeWhile (· ≠ ':')
    match rest.dropWhile (· ≠ ':'), posixClass? (String.ofList name) with
    | ':' :: ']' :: rest, some ranges =>
      set { s with rest := rest }
      return some (.posix ranges negated)
    | _, _ => return none
  | _ => return none

/-- One character or escape sequence inside brackets. -/
def classPrimitive (c : Char) : Parse Primitive := do
  if c = '\\' then escape
  else
    advance
    return .literal { char := c }

def Primitive.classTree : Primitive → Parse ClassTree
  | .literal l => return .literal l
  | .property name negated => return .property name negated
  | .shorthand s negated => return .shorthand s negated
  | .dot | .anchor _ => fail .classEscape

def Primitive.boundary : Primitive → Parse Literal
  | .literal l => return l
  | _ => fail .classRangeBoundary

/-- A single member of a class or a range; the reader stands at its first character. -/
def classItem (c : Char) : Parse ClassTree := do
  let first ← classPrimitive c
  skipBlanks
  let some d ← peek | fail .classUnclosed
  let after ← peekPastBlanks
  if d ≠ '-' ∨ after = some ']' ∨ after = some '-' then first.classTree
  else
    let e ← next .classUnclosed
    let second ← classPrimitive e
    let lo ← first.boundary
    let hi ← second.boundary
    if hi.char < lo.char then fail .classRangeOrder
    return .range lo hi

/-- Several items as one class. -/
def ClassTree.ofItems : List ClassTree → ClassTree
  | [t] => t
  | ts => .union ts

/-- The left side of an operation that has been read before the items now being read. -/
def closeOp (pending : Option (ClassOp × ClassTree)) (items : List ClassTree) : ClassTree :=
  let right := ClassTree.ofItems items.reverse
  match pending with
  | some (kind, left) => .op kind left right
  | none => right

/-- Reads as many `-` as there are at the start of a class, which stand for themselves. -/
def leadingDashes : Nat → List ClassTree → Parse (List ClassTree)
  | 0, items => return items
  | fuel + 1, items => do
    if (← peek) = some '-' then
      let _ ← next .classUnclosed
      leadingDashes fuel (.literal { char := '-' } :: items)
    else return items

mutual

/-- A class in brackets; the reader stands at the opening one. The fuel bounds the characters
    read. -/
def classBrackets : Nat → Parse (Bool × ClassTree)
  | 0 => fail .classUnclosed
  | fuel + 1 => do
    let c ← next .classUnclosed
    let negated := c = '^'
    if negated then let _ ← next .classUnclosed
    let items ← leadingDashes ((← get).rest.length + 1) []
    let items ← if items.isEmpty ∧ (← peek) = some ']' then
        let _ ← next .classUnclosed
        pure [ClassTree.literal { char := ']' }]
      else pure items
    return (negated, ← classItems fuel none items)

/-- The items of a class up to its closing bracket; `items` are those read so far, last one first,
    since the operation in `pending`. -/
def classItems : Nat → Option (ClassOp × ClassTree) → List ClassTree → Parse ClassTree
  | 0, _, _ => fail .classUnclosed
  | fuel + 1, pending, items => do
    skipBlanks
    let some c ← peek | fail .classUnclosed
    let second ← peekSecond
    if c = '[' then
      match ← posix? with
      | some t => classItems fuel pending (t :: items)
      | none =>
        let (negated, inner) ← classBrackets fuel
        classItems fuel pending (.nested negated inner :: items)
    else if c = ']' then
      advance
      return closeOp pending items
    else
      let op : Option ClassOp :=
        if c = '&' ∧ second = some '&' then some .inter
        else if c = '-' ∧ second = some '-' then some .diff
        else if c = '~' ∧ second = some '~' then some .symmDiff
        else none
      match op with
      | some kind =>
        advance
        advance
        classItems fuel (some (kind, closeOp pending items)) []
      | none =>
        let item ← classItem c
        classItems fuel pending (item :: items)

end

/-! ### Repetitions -/

/-- Reads the digits of a decimal, with blanks skipped as the mode of reading wants it. -/
def decimalDigits : Nat → Parse (List Char)
  | 0 => return []
  | fuel + 1 => do
    match ← peek with
    | some c =>
      if c.isDigit then
        advance
        skipBlanks
        return c :: (← decimalDigits fuel)
      else return []
    | none => return []

/-- Skips blanks in any mode of reading. -/
def skipAnyBlanks : Parse Unit :=
  modify fun s => { s with rest := s.rest.dropWhile Unicode.isWhitespace }

/-- A decimal of 32 bits; none when there is no digit. -/
def decimal? : Parse (Option Nat) := do
  skipAnyBlanks
  let ds ← decimalDigits ((← get).rest.length + 1)
  skipAnyBlanks
  skipBlanks
  if ds = [] then return none
  let n := ds.foldl (fun n d => n * 10 + (d.toNat - 48)) 0
  if n < Nat.pow 2 32 then return some n else fail .decimalInvalid

/-- Whether a `?` follows, which makes a repetition take as little as it can. -/
def lazyMark : Parse Bool := do
  if (← peek) = some '?' then
    advance
    return true
  else return false

/-- The expression that a repetition applies to: the last one read, unless it is a directive. -/
def repeatable : List Tree → Parse (Tree × List Tree)
  | [] => fail .repetitionMissing
  | .empty :: _ | .flags _ :: _ => fail .repetitionMissing
  | t :: ts => return (t, ts)

/-- A counted repetition; the reader stands at the opening brace. A fault in the first number is
    reported only once it is known that the number counts. -/
def counted (items : List Tree) : Parse (List Tree) := do
  let (t, ts) ← repeatable items
  let _ ← next .countUnclosed
  let start ← get
  let (first, after) ← match decimal?.run start with
    | .ok (n, after) => pure (Except.ok n, after)
    | .error f =>
      -- A number that is too large is still read to its end.
      let digits := do
        skipAnyBlanks
        let _ ← decimalDigits (start.rest.length + 1)
        skipAnyBlanks
        skipBlanks
      match digits.run start with
      | .ok (_, after) => pure (Except.error f, after)
      | .error _ => pure (Except.error f, start)
  set after
  let known : Parse Nat := match first with
    | .ok (some n) => return n
    | .ok none => fail .countMissing
    | .error f => fail f
  let some c ← peek | fail .countUnclosed
  let (min, max) ← if c = ',' then
      let d ← next .countUnclosed
      if d = '\x7d' then
        pure (← known, none)
      else
        let lo ← match first with
          | .ok none => fail .countMissing
          | _ => known
        match ← decimal? with
        | some hi => pure (lo, some hi)
        | none => fail .countMissing
    else do
      let n ← known
      pure (n, some n)
  if (← peek) ≠ some '\x7d' then fail .countUnclosed
  advance
  skipBlanks
  let lazy_ ← lazyMark
  if max.any (· < min) then fail .countOrder
  return .repetition min max (!lazy_) t :: ts

/-! ### Groups and flags -/

def Flag.ofLetter? : Char → Option Flag
  | 'i' => some .ignoreCase
  | 'm' => some .multiLine
  | 's' => some .dotMatchesLineEnd
  | 'U' => some .swapGreed
  | 'u' => some .unicode
  | 'R' => some .carriageReturn
  | 'x' => some .verbose
  | _ => none

/-- Reads flags up to a colon or a closing parenthesis. `negated` says that a `-` has been read, and
    `dangling` that it was the last character. -/
def flagSettings : Nat → Bool → Bool → List FlagSetting → Parse (List FlagSetting × Bool)
  | 0, _, _, _ => fail .flagUnfinished
  | fuel + 1, negated, dangling, seen => do
    let some c ← peek | fail .flagUnfinished
    if c = ':' ∨ c = ')' then
      if dangling then fail .flagDangling
      return (seen.reverse, negated)
    else if c = '-' then
      if negated then fail .flagNegatedTwice
      advance
      flagSettings fuel true true seen
    else match Flag.ofLetter? c with
      | none => fail .flagUnknown
      | some flag =>
        if seen.any fun setting => setting.1 = flag then fail .flagDuplicate
        advance
        flagSettings fuel negated false ((flag, !negated) :: seen)

/-- Reads the name of a group up to `>`. -/
def groupName : Nat → Bool → Parse (List Char)
  | 0, _ => fail .nameUnfinished
  | fuel + 1, first => do
    let some c ← peek | fail .nameUnfinished
    if c = '>' then
      advance
      return []
    let allowed :=
      if first then c = '_' || Unicode.isAlphabetic c
      else c = '_' || c = '.' || c = '[' || c = ']' || Unicode.isAlphanumeric c
    if !allowed then fail .nameInvalid
    advance
    return c :: (← groupName fuel false)

/-- The number of the next capturing group. -/
def nextGroup : Parse Nat := do
  let s ← get
  set { s with groups := s.groups + 1 }
  return s.groups + 1

/-- What an opening parenthesis starts. -/
inductive Opening where
  | directive (settings : List FlagSetting)
  | capture (index : Nat)
  | group (settings : List FlagSetting)

/-- Reads the start of a group; the reader stands at the parenthesis. -/
def opening : Parse Opening := do
  advance
  skipBlanks
  if (← take? "?=") || (← take? "?!") || (← take? "?<=") || (← take? "?<!") then fail .lookAround
  if (← take? "?P<") || (← take? "?<") then
    let index ← nextGroup
    let name := String.ofList (← groupName ((← get).rest.length + 1) true)
    if name = "" then fail .nameEmpty
    let s ← get
    if s.names.any fun known => known.1 = name then fail .nameDuplicate
    set { s with names := s.names ++ [(name, index)] }
    return .capture index
  else if ← take? "?" then
    if (← peek) = none then fail .groupUnclosed
    let (settings, negated) ← flagSettings ((← get).rest.length + 1) false false []
    let c ← peek
    advance
    if c = some ')' then
      if settings = [] ∧ !negated then fail .repetitionMissing
      return .directive settings
    else return .group settings
  else return .capture (← nextGroup)

/-- What flags say about verbose mode. -/
def verboseSetting? (settings : List FlagSetting) : Option Bool :=
  (settings.find? fun setting => setting.1 = .verbose).map (·.2)

def setVerbose (verbose : Bool) : Parse Unit := modify fun s => { s with verbose := verbose }

/-! ### Patterns -/

def Tree.ofItems : List Tree → Tree
  | [] => .empty
  | [t] => t
  | ts => .sequence ts

def Tree.ofBranches : List Tree → Tree
  | [t] => t
  | ts => .alternation ts

/-- Reads branches up to the end of the pattern or a closing parenthesis. `items` are the parts of
    the branch being read and `branches` those before it, last ones first. The fuel bounds the
    characters read. -/
def branches (fuel : Nat) (done : List Tree) (items : List Tree) : Parse Tree :=
  match fuel with
  | 0 => fail .groupUnclosed
  | fuel + 1 => do
    skipBlanks
    let finish := fun (_ : Unit) =>
      Tree.ofBranches ((Tree.ofItems items.reverse :: done).reverse)
    match ← peek with
    | none | some ')' => return finish ()
    | some '(' =>
      let outer := (← get).verbose
      match ← opening with
      | .directive settings =>
        match verboseSetting? settings with
        | some v => setVerbose v
        | none => pure ()
        branches fuel done (.flags settings :: items)
      | .capture index =>
        let inner ← branches fuel [] []
        if (← peek) = none then fail .groupUnclosed
        setVerbose outer
        advance
        branches fuel done (.capture index inner :: items)
      | .group settings =>
        setVerbose ((verboseSetting? settings).getD outer)
        let inner ← branches fuel [] []
        if (← peek) = none then fail .groupUnclosed
        setVerbose outer
        advance
        branches fuel done (.group settings inner :: items)
    | some '|' =>
      advance
      branches fuel (Tree.ofItems items.reverse :: done) []
    | some '[' =>
      let (negated, inner) ← classBrackets ((← get).rest.length + 1)
      branches fuel done (.set negated inner :: items)
    | some '?' => suffix fuel done items 0 (some 1)
    | some '*' => suffix fuel done items 0 none
    | some '+' => suffix fuel done items 1 none
    | some '\x7b' =>
      let items ← counted items
      branches fuel done items
    | some c =>
      let p ← primitive c
      branches fuel done (p.tree :: items)
where
  /-- A repetition written by one character. -/
  suffix (fuel : Nat) (done items : List Tree) (min : Nat) (max : Option Nat) : Parse Tree := do
    let (t, ts) ← repeatable items
    advance
    let lazy_ ← lazyMark
    branches fuel done (.repetition min max (!lazy_) t :: ts)

/-- A pattern as it was read: its tree and the names of its groups. -/
structure Parsed where
  tree : Tree
  groups : Nat
  names : List (String × Nat)
  deriving Inhabited

/-- Reads a pattern. -/
def Parsed.ofText? (pattern : String) : Except Flaw Parsed := do
  let cs := pattern.toList
  let (tree, s) ← (branches (2 * cs.length + 2) [] []).run { rest := cs }
  if s.rest ≠ [] then throw .groupUnopened
  if tree.depth > nestingLimit then throw .nesting
  return ⟨tree, s.groups, s.names⟩

end Autofix.Regex
