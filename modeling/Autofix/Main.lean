import Autofix.Command
import Autofix.Disk.Changes

/-!
# The program

Carries out a command line on the file system. What the command may look at is read first and makes
up a disk; the command is performed on that disk; what it changed there is written back.

A command sees what is below the current directory and below the paths among its arguments, and the
files in the directories above them and in the home directory.
-/

open Autofix

namespace Autofix.Program

/-- The place that an absolute path names. -/
def placeOf (path : String) : Disk.Place := (Disk.parts path).filter fun part => !Disk.isBlank part

def pathOf (place : Disk.Place) : String := "/" ++ "/".intercalate place

def contentOf (bytes : ByteArray) : Disk.Content :=
  match String.fromUTF8? bytes with
  | some s => .text s
  | none => .bytes bytes.toList

/-- Reads what is at a place into a disk tree, if there is anything; of a directory that is not read
    deeply, only what is no directory. A link is kept as a link to the place that it leads to in the
    end, and that place is read, too. -/
partial def readAt (deep : Bool) (root : Disk.Tree) (place : Disk.Place) : IO Disk.Tree := do
  let path := (← IO.currentDir) / pathOf place
  try
    match (← path.symlinkMetadata).type with
    | .file => return root.put place (.file (contentOf (← IO.FS.readBinFile path)))
    | .symlink =>
      let target := (← IO.FS.realPath path).toString
      let root := root.put place (.link target)
      if (root.get? (placeOf target)).isSome then return root
      else readAt deep root (placeOf target)
    | .dir =>
      let mut root := if (root.get? place).isSome then root else root.put place (.folder [])
      for entry in ← path.readDir do
        let inner := place ++ [entry.fileName]
        let wanted := deep || !(← entry.path.isDir)
        if wanted && (root.get? inner).isNone then root ← readAt deep root inner
      return root
    | .other => return root
  catch _ => return root

/-- Reads the directories above a place, without what lies deeper in them. -/
def readAbove (root : Disk.Tree) (place : Disk.Place) : IO Disk.Tree :=
  (List.range place.length).foldlM (fun root n => readAt false root (place.take n)) root

/-- The disk that a command sees. -/
def readDisk (args : List String) : IO Disk := do
  let current := placeOf (← IO.currentDir).toString
  let home := (← IO.getEnv "HOME").map Path.mk
  let named := args.map fun arg => placeOf ((Path.mk (pathOf current)).join ⟨arg⟩).normalize.text
  let mut root := Disk.Tree.folder []
  for place in current :: named do
    root ← readAt true root place
    root ← readAbove root place
  if let some home := home then root ← readAt false root (placeOf home.text)
  return ⟨root, current, home⟩

/-- Writes the changes of a disk to the file system, removals first. -/
def writeChanges (before after : Disk.Tree) : IO Unit := do
  let changes := before.changes after
  for (place, t) in changes do
    match t, before.get? place with
    | none, _ => IO.FS.removeFile (pathOf place)
    | some _, some (.link _) => IO.FS.removeFile (pathOf place)
    | _, _ => pure ()
  for (place, t) in changes do
    match t with
    | some (.file (.text s)) => IO.FS.writeFile (pathOf place) s
    | _ => pure ()

/-- Carries out a command line. -/
def run (args : List String) : IO UInt32 := do
  match Command.ofArgs args with
  | .error e =>
    IO.eprintln s!"error: {e.message}"
    return Command.failure.toUInt32
  | .ok invocation =>
    let d ← readDisk args
    let outcome := Command.perform d invocation.request
    writeChanges d.root outcome.disk.root
    let level := if invocation.isVerbose then Level.debug else Level.info
    for line in outcome.trace.lines level do IO.eprintln line
    IO.print outcome.output
    if let some complaint := outcome.complaint then IO.eprintln s!"error: {complaint}"
    return outcome.code.toUInt32

end Autofix.Program

def main (args : List String) : IO UInt32 := Program.run args
