import Autofix.Json.Decode

/-!
# Paths

A path is a text in which `/` separates names. What it says is the list of its *components*: the
root, the current directory at its start, the parent directory `..`, and names. Empty parts and
parts `.` further on say nothing. Two paths with the same components are the same (`Path.same`),
while messages show a path as it is written.

* `parent?`, `folder`, `fileName?`, `extension?` and `ancestors` take a path apart;
* `join` puts a path below another one, `stripBase?` takes the upper part off again;
* `normalize` drops `.` and folds `..` into the name before it, without looking at any disk.
-/

namespace Autofix

structure Path where
  text : String
  deriving DecidableEq, Repr, Inhabited

namespace Path

/-- A part of a path that says something. -/
inductive Component where
  | root
  | here
  | up
  | name (s : String)
  deriving DecidableEq, Repr

/-- Whether a part between separators says nothing. -/
def isBlank (part : List Char) : Bool := part = [] || part = ['.']

/-- How a path starts: at the root, at the current directory that it names, or with its first
    part. -/
inductive Lead where
  | root
  | here
  | none
  deriving DecidableEq, Repr

/-- The start of a path and the parts that follow it. -/
def split (p : Path) : Lead × List (List Char) :=
  match p.text.toList with
  | '/' :: rest => (.root, Text.fields '/' rest)
  | ['.'] => (.here, [])
  | '.' :: '/' :: rest => (.here, Text.fields '/' ('/' :: rest))
  | cs => (.none, Text.fields '/' cs)

def Lead.chars : Lead → List Char
  | .root => ['/']
  | .here => ['.']
  | .none => []

def Lead.components : Lead → List Component
  | .root => [.root]
  | .here => [.here]
  | .none => []

/-- Parts with separators between them. -/
def joinParts : List (List Char) → List Char
  | [] => []
  | [part] => part
  | part :: rest => part ++ '/' :: joinParts rest

def ofParts (lead : Lead) (parts : List (List Char)) : Path :=
  ⟨String.ofList (lead.chars ++ joinParts parts)⟩

def partComponent (part : List Char) : Component :=
  if part = ['.', '.'] then .up else .name (String.ofList part)

/-- What a path says. -/
def components (p : Path) : List Component :=
  let (lead, parts) := p.split
  lead.components ++ (parts.filter fun part => !isBlank part).map partComponent

/-- Whether two paths say the same. -/
def same (p q : Path) : Bool := p.components = q.components

def isAbsolute (p : Path) : Bool := p.text.toList.head? = some '/'

/-- The path of `q` as seen from `p`. -/
def join (p q : Path) : Path :=
  if q.isAbsolute then q
  else match p.text.toList.getLast? with
    | none => q
    | some c => if c = '/' then ⟨p.text ++ q.text⟩ else ⟨p.text ++ "/" ++ q.text⟩

/-- A path without its last component; the root and the empty path have none to take off. -/
def parent? (p : Path) : Option Path :=
  let (lead, parts) := p.split
  match parts.reverse.dropWhile isBlank with
  | _ :: before => some (ofParts lead (before.dropWhile isBlank).reverse)
  | [] => if lead = .here then some ⟨""⟩ else none

/-- The folder of a file: its path without the last component, or else the empty path. -/
def folder (p : Path) : Path := p.parent?.getD ⟨""⟩

/-- The name at the end of a path. -/
def fileName? (p : Path) : Option String :=
  match (p.split.2.reverse.dropWhile isBlank) with
  | part :: _ => if part = ['.', '.'] then none else some (String.ofList part)
  | [] => none

/-- What follows the last dot of the name at the end of a path, unless that dot starts the name. -/
def extension? (p : Path) : Option String := do
  let name := (← p.fileName?).toList
  let last := (name.reverse.takeWhile (· ≠ '.')).reverse
  let before := (name.reverse.dropWhile (· ≠ '.')).drop 1
  if before = [] then none else some (String.ofList last)

/-- A path and all the paths that are left as its last components are taken off one by one. -/
def ancestors (p : Path) : List Path := go (p.text.length + 1) p
where
  go : Nat → Path → List Path
    | 0, _ => []
    | fuel + 1, p => p :: match p.parent? with
      | some q => go fuel q
      | none => []

/-- Takes names off the front of a list of parts, if they are there. -/
def stripParts? : List (List Char) → List (List Char) → Option (List (List Char))
  | [], parts => some parts
  | name :: names, parts =>
    match parts.dropWhile isBlank with
    | part :: rest => if part = name then stripParts? names rest else none
    | [] => none

/-- The path of `p` as seen from `base`, if it starts with the components of `base`. -/
def stripBase? (p base : Path) : Option Path :=
  let (lead, parts) := p.split
  let (baseLead, baseParts) := base.split
  let names := baseParts.filter fun part => !isBlank part
  let trimEnd := fun (parts : List (List Char)) => (parts.reverse.dropWhile isBlank).reverse
  if baseLead = .none ∧ names = [] then some (ofParts lead (trimEnd parts))
  else if lead = baseLead then
    (stripParts? names parts).map fun rest => ofParts .none (trimEnd (rest.dropWhile isBlank))
  else none

/-- Lists of components in order: the root before `.` before `..` before names, names by their
    characters. -/
def Component.rank : Component → Nat
  | .root => 0
  | .here => 1
  | .up => 2
  | .name _ => 3

def Component.compare : Component → Component → Ordering
  | .name s, .name t => Ord.compare s t
  | c, d => Ord.compare c.rank d.rank

def compareComponents : List Component → List Component → Ordering
  | [], [] => .eq
  | [], _ :: _ => .lt
  | _ :: _, [] => .gt
  | c :: cs, d :: ds => (c.compare d).then (compareComponents cs ds)

/-- The order of paths: component by component. -/
def compare (p q : Path) : Ordering := compareComponents p.components q.components

/-! ### Normal form -/

/-- One step of normalization. `stack` holds the components so far, last one first, without the
    root; `..` takes the last one away, and stays where there is none. -/
def fold (stack : List Component) : Component → List Component
  | .root => stack
  | .here => stack
  | .up => match stack with
    | [] => [.up]
    | _ :: rest => rest
  | .name s => .name s :: stack

def Component.chars : Component → List Char
  | .root => []
  | .here => ['.']
  | .up => ['.', '.']
  | .name s => s.toList

/-- Drops `.` and folds `..` into the component before it. -/
def normalize (p : Path) : Path :=
  let stack := p.components.foldl fold []
  let lead := if p.isAbsolute then Lead.root else Lead.none
  ofParts lead (stack.reverse.map Component.chars)

def toJson (p : Path) : Json := .string p.text

def decode : Decoder Path
  | .string s => .ok ⟨s⟩
  | v => v.wrongType "path string"

end Path

end Autofix
