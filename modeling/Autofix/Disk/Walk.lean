import Autofix.Disk
import Autofix.Trace

/-!
# Walking through folders

A walk lists what is below a folder, depth first and by name within each folder. It opens every
folder under its path, which fails where this path is too long.

* `Disk.entries` is a walk that does not follow links and leaves out what a test rejects, together
  with all that is below it;
* `Disk.filesBelow` follows links. A link to a folder that the walk is inside of is a loop and is
  passed over, with a warning.
-/

namespace Autofix

/-- Why a walk cannot go on: what went wrong, and where. -/
structure WalkError where
  path : Path
  error : IoError
  deriving DecidableEq, Repr, Inhabited

def WalkError.message (e : WalkError) : String :=
  s!"IO error for operation on {e.path.text}: {e.error.message}"

namespace Disk

/-- Something met by a walk: its path, its name and the node, which may be a link. -/
structure Entry where
  path : Path
  node : Tree
  deriving Repr, Inhabited

/-! ### Without following links -/

mutual

/-- What is at and below a node, as far as `keep` accepts the names on the way. The fuel bounds the
    steps down and along the entries of a folder. -/
def entriesAt (keep : String → Bool) (path : Path) : Nat → Tree → List Entry
  | 0, _ => []
  | fuel + 1, t => ⟨path, t⟩ :: entriesIn keep path fuel t.children

/-- What is at and below the nodes of a folder. -/
def entriesIn (keep : String → Bool) (path : Path) : Nat → List (String × Tree) → List Entry
  | 0, _ => []
  | _ + 1, [] => []
  | fuel + 1, (name, t) :: rest =>
    (if keep name then entriesAt keep (path.join ⟨name⟩) fuel t else [])
      ++ entriesIn keep path fuel rest

end

/-- The entries of a walk, if it can open all the folders among them. -/
def opened (es : List Entry) : Except WalkError (List Entry) :=
  match es.find? fun e => e.node.isFolder && !e.path.isShort with
  | some e => .error ⟨e.path, .nameTooLong⟩
  | none => .ok es

/-- A folder and what is below it. If the path leads to a link, the entry for it is that link, and
    the walk goes on below what it points at. -/
def entries (d : Disk) (keep : String → Bool) (p : Path) : Except WalkError (List Entry) :=
  let fail := fun (e : IoError) => Except.error (WalkError.mk p e)
  match d.find false p with
  | .error e => fail e
  | .ok (.missing _) => fail .notFound
  | .ok (.node _ (.link target)) =>
    match d.stat p with
    | .error e => fail e
    | .ok (_, t) => opened (⟨p, .link target⟩ :: entriesIn keep p (2 * d.root.count) t.children)
  | .ok (.node _ t) => opened (entriesAt keep p (2 * d.root.count + 1) t)

/-! ### Following links -/

/-- A folder that a walk is inside of, under the path by which it was entered. -/
structure Inside where
  path : Path
  place : Place
  deriving Repr

/-- The files that a walk has met, or why it stopped, and its remarks. -/
abbrev Listing := Except WalkError (List Path) × Trace

/-- Two parts of a walk, one after the other. -/
def Listing.append (a : Listing) (b : Unit → Listing) : Listing :=
  match a.1 with
  | .error e => (.error e, a.2)
  | .ok files =>
    let (more, trace) := b ()
    (more.map (files ++ ·), a.2 ++ trace)

def loopWarning (child ancestor : Path) : Event :=
  let loop := s!"{child.text} points to an ancestor {ancestor.text}"
  .warn s!"Skipping symlink loop: File system loop found: {loop}"

mutual

/-- The files below a folder at a place, which is the first of the folders in `inside`. -/
def filesIn (d : Disk) (inside : List Inside) (path : Path) (place : Place) :
    Nat → List (String × Tree) → Listing
  | 0, _ => (.ok [], [])
  | _ + 1, [] => (.ok [], [])
  | fuel + 1, (name, t) :: rest =>
    (fileAt d inside (path.join ⟨name⟩) (place ++ [name]) fuel t).append fun _ =>
      filesIn d inside path place fuel rest

/-- The file at a place, or the files below a folder there. -/
def fileAt (d : Disk) (inside : List Inside) (path : Path) (place : Place) :
    Nat → Tree → Listing
  | 0, _ => (.ok [], [])
  | _ + 1, .file _ => (.ok [path], [])
  | fuel + 1, .folder entries =>
    if path.isShort then
      filesIn d (⟨path, place⟩ :: inside) path place fuel (Tree.folder entries).children
    else (.error ⟨path, .nameTooLong⟩, [])
  | fuel + 1, .link _ =>
    match d.stat path with
    | .error e => (.error ⟨path, e⟩, [])
    | .ok (place, t) =>
      if t.isFolder then
        match inside.find? fun outer => outer.place = place with
        | some outer => (.ok [], [loopWarning path outer.path])
        | none => filesIn d (⟨path, place⟩ :: inside) path place fuel t.children
      else (.ok [path], [])

end

/-- How far a walk can go. On one branch, no link leads to a folder that the walk is inside of, so
    there are no more links than folders, and the names between two links lead ever deeper; each
    folder met costs as many steps as it has entries. -/
def walkBound (d : Disk) : Nat := (d.root.count + 2) * (d.root.count + 2) * (d.root.count + 2)

/-- The files below a folder. A path that leads to a file has nothing below it. -/
def filesBelow (d : Disk) (p : Path) : Listing :=
  match d.stat p with
  | .error e => (.error ⟨p, e⟩, [])
  | .ok (place, t) => filesIn d [⟨p, place⟩] p place d.walkBound t.children

end Disk

end Autofix
