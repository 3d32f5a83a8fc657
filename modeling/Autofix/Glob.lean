import Autofix.Path

/-!
# Globs

A glob selects paths: `?` is any byte, `*` any run of bytes, `**` any run of directories where it
stands between separators, `[a-z]` a byte out of a set and `{a,b}` one of several globs. A backslash
takes the meaning from the character after it. Globs look at bytes; a character beyond ASCII is
several of them.

* `Glob.ofText?` reads a glob;
* `Glob.matches` says whether it selects a path.
-/

namespace Autofix

namespace Glob

/-- A part of a glob. -/
inductive Part where
  | literal (c : Char)
  /-- `?` -/
  | any
  /-- `*` -/
  | star
  /-- `**/` at the start, or all of a glob -/
  | anyDepth
  /-- `/**` at the end -/
  | descend
  /-- `/**/` in between -/
  | between
  | set (negated : Bool) (ranges : List (Char × Char))
  | choice (branches : List (List Part))
  deriving Repr, Inhabited

/-- Why a text is not a glob. -/
inductive Flaw where
  | unclosedSet
  | invalidRange (lo hi : Char)
  | unopenedChoice
  | unclosedChoice
  | danglingEscape
  deriving DecidableEq, Repr

def Flaw.reason : Flaw → String
  | .unclosedSet => "unclosed character class; missing ']'"
  | .invalidRange lo hi => s!"invalid range; '{lo}' > '{hi}'"
  | .unopenedChoice =>
    "unopened alternate group; missing '\x7b' (maybe escape '\x7d' with '[\x7d]'?)"
  | .unclosedChoice =>
    "unclosed alternate group; missing '\x7d' (maybe escape '\x7b' with '[\x7b]'?)"
  | .danglingEscape => "dangling '\\'"

/-! ### Reading -/

/-- Adds a character to the members of a set. After a `-` it ends the range that the member before
    it starts. -/
def addMember (inRange : Bool) (ranges : List (Char × Char)) (c : Char) :
    Except Flaw (List (Char × Char)) :=
  match inRange, ranges with
  | true, (lo, _) :: rest => if c < lo then .error (.invalidRange lo c) else .ok ((lo, c) :: rest)
  | _, ranges => .ok ((c, c) :: ranges)

/-- The members of a set, last one first, up to the closing bracket, and what follows that. A `]` or
    `-` that comes first stands for itself, and so does a `-` that comes last. -/
def setMembers (first inRange : Bool) (ranges : List (Char × Char)) :
    List Char → Except Flaw (List (Char × Char) × List Char)
  | [] => .error .unclosedSet
  | c :: rest =>
    if c = ']' ∧ !first then .ok (if inRange then ('-', '-') :: ranges else ranges, rest)
    else if c = '-' ∧ !first ∧ !inRange then setMembers false true ranges rest
    else do setMembers false false (← addMember inRange ranges c) rest

/-- What is being read: the parts of each open branch, last ones first, and for each choice that is
    open how many branches were open before it. -/
structure Open where
  branches : List (List Part)
  choices : List Nat
  deriving Inhabited

namespace Open

def push (o : Open) (p : Part) : Open :=
  match o.branches with
  | parts :: rest => { o with branches := (p :: parts) :: rest }
  | [] => { o with branches := [[p]] }

/-- The parts of the branch being read, last one first. -/
def current (o : Open) : List Part := o.branches.headD []

def openChoice (o : Open) : Open :=
  ⟨[] :: o.branches, o.branches.length :: o.choices⟩

def nextBranch (o : Open) : Open := { o with branches := [] :: o.branches }

def closeChoice (o : Open) : Except Flaw Open :=
  match o.choices with
  | [] => .error .unopenedChoice
  | outer :: choices =>
    let inner := o.branches.take (o.branches.length - outer)
    let branches := inner.reverse.map List.reverse
    .ok (push ⟨o.branches.drop (o.branches.length - outer), choices⟩ (.choice branches))

/-- Replaces the last part of the branch being read. -/
def replaceLast (o : Open) (f : Part → Part) : Open :=
  match o.branches with
  | (p :: parts) :: rest => { o with branches := (f p :: parts) :: rest }
  | _ => o

end Open

/-- The part that `**` makes of the part before it, which it takes in. -/
def deepen (atEnd : Bool) : Part → Part
  | .anyDepth => .anyDepth
  | .descend => .descend
  | _ => if atEnd then .descend else .between

/-- Two stars, with `previous` before them and `rest` after them. Where they do not stand between
    separators, they are two single ones. -/
def twoStars (o : Open) (previous : Option Char) (rest : List Char) : Open × List Char :=
  let single := (o.push .star).push .star
  let inChoice := !o.choices.isEmpty
  if o.current.isEmpty then
    match rest with
    | [] => (o.push .anyDepth, [])
    | '/' :: rest => (o.push .anyDepth, rest)
    | rest => (single, rest)
  else if previous ≠ some '/' && (!inChoice || (previous ≠ some ',' && previous ≠ some '\x7b')) then
    (single, rest)
  else match rest with
    | [] => (o.replaceLast (deepen true), [])
    | c :: more =>
      if (c = ',' ∨ c = '\x7d') ∧ inChoice then (o.replaceLast (deepen true), c :: more)
      else if c = '/' then (o.replaceLast (deepen false), more)
      else (single, c :: more)

/-- Reads the rest of a glob; `previous` is the character before it. The fuel bounds the characters
    read. -/
def read : Nat → Open → Option Char → List Char → Except Flaw Open
  | 0, o, _, _ => .ok o
  | _ + 1, o, _, [] => .ok o
  | fuel + 1, o, previous, c :: rest =>
    match c with
    | '?' => read fuel (o.push .any) (some c) rest
    | '*' =>
      match rest with
      | '*' :: rest =>
        let (o, left) := twoStars o previous rest
        -- The character before what is left is the last one taken.
        let taken := rest.length - left.length
        let last := if taken = 0 then '*' else (rest.take taken).getLastD '*'
        read fuel o (some last) left
      | rest => read fuel (o.push .star) (some c) rest
    | '[' => do
      let (negated, inner) := match rest with
        | '!' :: inner => (true, inner)
        | '^' :: inner => (true, inner)
        | inner => (false, inner)
      let (ranges, rest) ← setMembers true false [] inner
      read fuel (o.push (.set negated ranges.reverse)) (some ']') rest
    | '\x7b' => read fuel o.openChoice (some c) rest
    | '\x7d' => do read fuel (← o.closeChoice) (some c) rest
    | ',' =>
      if o.choices.isEmpty then read fuel (o.push (.literal ',')) (some c) rest
      else read fuel o.nextBranch (some c) rest
    | '\\' =>
      match rest with
      | [] => .error .danglingEscape
      | e :: rest => read fuel (o.push (.literal e)) (some e) rest
    | c => read fuel (o.push (.literal c)) (some c) rest

/-! ### Matching -/

/-- The bytes of a text in UTF-8. -/
def bytes (cs : List Char) : List UInt8 := cs.flatMap String.utf8EncodeChar

def slash : UInt8 := 47

/-- What is left after a sequence of bytes, if the text starts with it. -/
def after? : List UInt8 → List UInt8 → Option (List UInt8)
  | [], text => some text
  | b :: bs, c :: cs => if b = c then after? bs cs else none
  | _ :: _, [] => none

/-- Whether `k` accepts what is left after some run of bytes that `ok` accepts. -/
def afterRun (ok : UInt8 → Bool) (k : List UInt8 → Bool) : List UInt8 → Bool
  | [] => k []
  | b :: bs => k (b :: bs) || (ok b && afterRun ok k bs)

/-- Whether `k` accepts what is left after some separator. -/
def afterSlash (k : List UInt8 → Bool) : List UInt8 → Bool
  | [] => false
  | b :: bs => (b = slash && k bs) || afterSlash k bs

/-- Whether a byte is in a set. A character beyond ASCII puts its single bytes there, and a range
    reaches from the last byte of its lower end to the first one of its upper end. -/
def inRange (b : UInt8) (r : Char × Char) : Bool :=
  let lo := String.utf8EncodeChar r.1
  let hi := String.utf8EncodeChar r.2
  if r.1 = r.2 then lo.contains b
  else (lo.dropLast ++ hi.drop 1).contains b
    || (lo.getLastD 0 ≤ b && b ≤ hi.headD 0)

mutual

/-- Whether a part says nothing. Empty branches of a choice are left out. -/
def Part.isVoid : Part → Bool
  | .choice branches => allVoid branches
  | _ => false

def partsVoid : List Part → Bool
  | [] => true
  | p :: ps => p.isVoid && partsVoid ps

def allVoid : List (List Part) → Bool
  | [] => true
  | ps :: rest => partsVoid ps && allVoid rest

end

mutual

/-- Whether a part can be matched so that `k` accepts what is left. `separate` says that `?` and `*`
    stop at separators. -/
def Part.accepts (separate : Bool) : Part → (List UInt8 → Bool) → List UInt8 → Bool
  | .literal c, k, text => (after? (String.utf8EncodeChar c) text).any k
  | .any, k, text =>
    match text with
    | b :: rest => !(separate && b = slash) && k rest
    | [] => false
  | .star, k, text => afterRun (fun b => !(separate && b = slash)) k text
  | .anyDepth, k, text => k text || afterSlash k text
  | .descend, k, text => (after? [slash] text).any (afterRun (fun _ => true) k)
  | .between, k, text => (after? [slash] text).any fun rest => k rest || afterSlash k rest
  | .set negated ranges, k, text =>
    match text with
    | b :: rest => (ranges.any (inRange b) != negated) && k rest
    | [] => false
  | .choice branches, k, text =>
    if allVoid branches then k text else someAccepts separate branches k text

/-- The same for several parts in a row. -/
def allAccept (separate : Bool) : List Part → (List UInt8 → Bool) → List UInt8 → Bool
  | [], k, text => k text
  | p :: ps, k, text => p.accepts separate (allAccept separate ps k) text

/-- The same for one of several branches. -/
def someAccepts (separate : Bool) :
    List (List Part) → (List UInt8 → Bool) → List UInt8 → Bool
  | [], _, _ => false
  | ps :: rest, k, text =>
    (!partsVoid ps && allAccept separate ps k text) || someAccepts separate rest k text

end

end Glob

/-- A glob: how it is written, its parts, and whether `?` and `*` stop at separators. -/
structure Glob where
  text : String
  parts : List Glob.Part
  separate : Bool
  deriving Repr, Inhabited

/-- A text that is not a glob, and why. -/
structure GlobError where
  glob : String
  flaw : Glob.Flaw
  deriving DecidableEq, Repr

def GlobError.message (e : GlobError) : String :=
  s!"error parsing glob '{e.glob}': {e.flaw.reason}"

namespace Glob

/-- Reads a glob. -/
def ofText? (separate : Bool) (text : String) : Except GlobError Glob :=
  let cs := text.toList
  match read (cs.length + 1) ⟨[[]], []⟩ none cs with
  | .error flaw => .error ⟨text, flaw⟩
  | .ok o =>
    match o.branches with
    | [parts] => .ok ⟨text, parts.reverse, separate⟩
    | _ => .error ⟨text, .unclosedChoice⟩

def Part.literal? : Part → Option Char
  | .literal c => some c
  | _ => none

/-- Whether a glob is decided by the name of the file alone, or asks for the extension of that name:
    its end is literal, and it is neither a text nor a text below any directory. -/
def looksAtName (g : Glob) : Bool :=
  let allLiteral := g.parts.all fun p => p.literal?.isSome
  let tail := match g.parts with
    | .anyDepth :: rest => rest
    | parts => parts
  let literalTail := tail.all fun p => p.literal?.isSome
  let hasSlash := tail.any fun p => p.literal? = some '/'
  let deep := tail.length ≠ g.parts.length
  let suffix := match tail with
    | .star :: rest => if g.separate then tail else rest
    | parts => parts
  let literalSuffix := suffix.all fun p => p.literal?.isSome
  -- `*.` alone asks for an extension.
  let bareExtension := match tail with
    | [.star, .literal '.'] => true
    | _ => false
  if allLiteral then false
  else if deep && literalTail then !hasSlash
  else if literalSuffix then bareExtension
  else true

/-- Whether a glob selects a path. A path that ends in a dot has no file name, so that a glob which
    looks at the name and ends in a dot selects nothing. -/
def selects (g : Glob) (p : Path) : Bool :=
  let whole := match g.parts with
    | [.anyDepth] => true
    | parts => allAccept g.separate parts List.isEmpty (bytes p.text.toList)
  let dotted := g.parts.getLast?.bind Part.literal? = some '.'
  whole && !(dotted && g.looksAtName)

/-- Whether one of several globs selects a path. -/
def anySelects (gs : List Glob) (p : Path) : Bool := gs.any fun g => g.selects p

end Glob

end Autofix
