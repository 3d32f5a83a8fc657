import Autofix.Disk.Tree
import Autofix.Path.Bounded

/-!
# Disks

A disk is a file tree together with the directory that relative paths start from and the home
directory. Paths are looked up as an operating system does it: name by name, through symbolic links,
of which no more than forty are followed on the way.

* `Disk.find` looks a path up, `Disk.stat` follows it to a node;
* `Disk.readText`, `Disk.writeText`, `Disk.createText` and `Disk.remove` read and change files;
* `IoError` is what may go wrong.
-/

namespace Autofix

/-- What the operating system reports. -/
inductive IoError where
  | notFound
  | isDirectory
  | notDirectory
  | tooManyLinks
  | alreadyThere
  | nameTooLong
  | nulInPath
  | notText
  | other (message : String)
  deriving DecidableEq, Repr, Inhabited

def IoError.message : IoError → String
  | .notFound => "No such file or directory (os error 2)"
  | .isDirectory => "Is a directory (os error 21)"
  | .notDirectory => "Not a directory (os error 20)"
  | .tooManyLinks => "Too many levels of symbolic links (os error 40)"
  | .alreadyThere => "File exists (os error 17)"
  | .nameTooLong => "File name too long (os error 36)"
  | .nulInPath => "file name contained an unexpected NUL byte"
  | .notText => "stream did not contain valid UTF-8"
  | .other message => message

structure Disk where
  root : Disk.Tree
  /-- The directory from which relative paths start. -/
  current : Disk.Place
  home : Option Path
  deriving Repr, Inhabited

namespace Disk

/-- The directory from which relative paths start, as a path. -/
def currentPath (d : Disk) : Path := ⟨"/" ++ "/".intercalate d.current⟩

/-- Where a path leads: to a node, or to a name that a folder does not have. -/
inductive Found where
  | node (place : Place) (t : Tree)
  | missing (place : Place)
  deriving Repr

/-- The parts of a path, blank ones included. -/
def parts (text : String) : List String := (Text.fields '/' text.toList).map String.ofList

def isBlank (part : String) : Bool := part = "" || part = "."

/-- Follows the parts of a path from a place. `last` says whether a link at the end is followed, and
    `jump` goes on from a place with further parts once a link has been followed. -/
def follow (root : Tree) (last : Bool) (jump : Place → List String → Except IoError Found) :
    Place → List String → Except IoError Found
  | here, [] =>
    match root.get? here with
    | some t => .ok (.node here t)
    | none => .error .notFound
  | here, part :: rest =>
    if isBlank part then follow root last jump here rest
    else if part = ".." then follow root last jump here.dropLast rest
    else if 255 < part.utf8ByteSize then .error .nameTooLong
    else
      let there := here ++ [part]
      match root.get? there with
      | none => if rest = [] then .ok (.missing there) else .error .notFound
      | some (.file content) =>
        if rest = [] then .ok (.node there (.file content)) else .error .notDirectory
      | some (.folder _) => follow root last jump there rest
      | some (.link target) =>
        if rest = [] ∧ !last then .ok (.node there (.link target))
        else jump (if (Path.mk target).isAbsolute then [] else here) (parts target ++ rest)

/-- Follows the parts of a path, with at most `links` links on the way. -/
def resolve (root : Tree) (last : Bool) : Nat → Place → List String → Except IoError Found
  | 0 => follow root last fun _ _ => .error .tooManyLinks
  | links + 1 => follow root last (resolve root last links)

/-- How many links are followed on the way of a path. -/
def linkLimit : Nat := 40

/-- Looks a path up. -/
def find (d : Disk) (last : Bool) (p : Path) : Except IoError Found :=
  if p.text.toList.contains '\x00' then .error .nulInPath
  else if p.text = "" then .error .notFound
  else if !p.isShort then .error .nameTooLong
  else resolve d.root last linkLimit (if p.isAbsolute then [] else d.current) (parts p.text)

/-- The node that a path leads to, through links, with its place. -/
def stat (d : Disk) (p : Path) : Except IoError (Place × Tree) := do
  match ← d.find true p with
  | .node place t => return (place, t)
  | .missing _ => throw .notFound

def has (d : Disk) (p : Path) : Bool := (d.stat p).isOk

def isFile (d : Disk) (p : Path) : Bool :=
  match d.stat p with
  | .ok (_, t) => t.isFile
  | .error _ => false

/-- The text of a file. -/
def readText (d : Disk) (p : Path) : Except IoError String := do
  match ← d.stat p with
  | (_, .file (.text s)) => return s
  | (_, .file (.bytes _)) => throw .notText
  | (_, .folder _) => throw .isDirectory
  | (_, .link _) => throw .tooManyLinks

/-! ### What can be looked up -/

theorem isShort_of_find {d : Disk} {last : Bool} {p : Path} {found : Found}
    (h : d.find last p = .ok found) : p.isShort := by
  cases hshort : p.isShort with
  | true => rfl
  | false => grind [find]

/-- A file that can be read has a short path. -/
theorem isShort_of_readText {d : Disk} {p : Path} {s : String} (h : d.readText p = .ok s) :
    p.isShort := by
  cases hfind : d.find true p with
  | ok found => exact isShort_of_find hfind
  | error e => simp [readText, stat, hfind, bind, Except.bind] at h

/-! ### Changing files -/

/-- A path without the separators at its end. -/
def withoutEnd (p : Path) : Path :=
  ⟨String.ofList (p.text.toList.reverse.dropWhile (· = '/')).reverse⟩

/-- Makes a text the content of a file, which need not exist before. A separator at the end of the
    path asks for a folder, which no text can be the content of. Permissions and the space that is
    left are no part of a disk, and there is no telling what is left behind where writing fails. -/
def writeText (d : Disk) (p : Path) (s : String) : Except IoError Disk := do
  let put := fun (place : Place) => { d with root := d.root.put place (.file (.text s)) }
  match d.find true p with
  | .ok (.node place (.file _)) => return put place
  | .ok (.node _ _) => throw .isDirectory
  | .ok (.missing place) => return put place
  | .error e =>
    match d.find true (withoutEnd p) with
    | .ok (.missing _) => throw .isDirectory
    | _ => throw e

/-- Makes a new file; nothing may be there, not even a link. -/
def createText (d : Disk) (p : Path) (s : String) : Except IoError Disk := do
  match ← d.find false p with
  | .node _ _ => throw .alreadyThere
  | .missing place => return { d with root := d.root.put place (.file (.text s)) }

/-- Removes a file or a link. -/
def remove (d : Disk) (p : Path) : Except IoError Disk := do
  match ← d.find false p with
  | .node _ (.folder _) => throw .isDirectory
  | .node place _ => return { d with root := d.root.erase place }
  | .missing _ => throw .notFound

end Disk

end Autofix
