import Autofix.Dictionary

/-!
# File trees

What a disk holds: a tree of folders with files and symbolic links in it. A place in the tree is the
list of names that leads there from the root.

* `Tree.get?` is the node at a place;
* `Tree.put` and `Tree.erase` change the tree at a place;
* `Tree.children` lists a folder by name.
-/

namespace Autofix.Disk

/-- What a file holds: a text, or bytes that are not the UTF-8 form of any text. -/
inductive Content where
  | text (s : String)
  | bytes (bs : List UInt8)
  deriving DecidableEq, Repr, Inhabited

inductive Tree where
  | file (content : Content)
  | link (target : String)
  | folder (entries : List (String × Tree))
  deriving Repr, Inhabited

/-- The names that lead from the root to a place. -/
abbrev Place := List String

namespace Tree

def isFolder : Tree → Bool
  | folder _ => true
  | _ => false

def isFile : Tree → Bool
  | file _ => true
  | _ => false

/-- The node at a place. -/
def get? : Tree → Place → Option Tree
  | t, [] => some t
  | folder entries, name :: rest => (entries.lookup name).bind fun t => get? t rest
  | _, _ :: _ => none

/-- Replaces the entry of a name, or adds one at the end. -/
def putEntry (name : String) (t : Tree) : List (String × Tree) → List (String × Tree)
  | [] => [(name, t)]
  | (other, u) :: rest =>
    if other = name then (name, t) :: rest else (other, u) :: putEntry name t rest

/-- Puts a node at a place. Where the way there leads through something other than a folder, or
    through nothing, folders are made. -/
def put : Tree → Place → Tree → Tree
  | _, [], new => new
  | folder entries, name :: rest, new =>
    folder (putEntry name (put ((entries.lookup name).getD (folder [])) rest new) entries)
  | _, name :: rest, new => folder [(name, put (folder []) rest new)]

/-- Removes the node at a place. -/
def erase : Tree → Place → Tree
  | folder entries, [name] => folder (entries.filter fun e => e.1 ≠ name)
  | folder entries, name :: rest =>
    match entries.lookup name with
    | some t => folder (putEntry name (erase t rest) entries)
    | none => folder entries
  | t, _ => t

/-- The entries of a folder in the order of their names, each name once. -/
def children : Tree → List (String × Tree)
  | folder entries => entries.foldr (fun e sorted => Dictionary.insert e.1 e.2 sorted) []
  | _ => []

mutual

/-- The number of nodes of a tree. -/
def count : Tree → Nat
  | file _ => 1
  | link _ => 1
  | folder entries => 1 + countAll entries

def countAll : List (String × Tree) → Nat
  | [] => 0
  | (_, t) :: rest => count t + countAll rest

end

mutual

/-- The number of bytes in all texts of a tree. -/
def textSize : Tree → Nat
  | file (.text s) => s.utf8ByteSize
  | file (.bytes _) => 0
  | link _ => 0
  | folder entries => textSizeAll entries

def textSizeAll : List (String × Tree) → Nat
  | [] => 0
  | (_, t) :: rest => textSize t + textSizeAll rest

end

end Tree

end Autofix.Disk
