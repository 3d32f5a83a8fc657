import Autofix.Disk

/-!
# Changes between disks

What differs between two states of a disk, file by file and link by link. Folders are only the way
there.
-/

namespace Autofix.Disk

mutual

/-- The files and links of a tree at a place, in the order of the places. -/
def Tree.leaves (place : Place) : Tree → List (Place × Tree)
  | .folder entries => leavesAll place entries
  | t => [(place, t)]

def Tree.leavesAll (place : Place) : List (String × Tree) → List (Place × Tree)
  | [] => []
  | (name, t) :: rest => Tree.leaves (place ++ [name]) t ++ leavesAll place rest

end

/-- Whether two nodes are the same file or link. -/
def Tree.sameLeaf : Tree → Tree → Bool
  | .file a, .file b => a = b
  | .link a, .link b => a = b
  | _, _ => false

/-- The files and links that are new or different after a change, and the places of those that are
    gone. -/
def Tree.changes (before after : Tree) : List (Place × Option Tree) :=
  let old := before.leaves []
  let new := after.leaves []
  (new.filter fun (place, t) => !(old.lookup place).any t.sameLeaf).map (fun (p, t) => (p, some t))
  ++ (old.filter fun (place, _) => (new.lookup place).isNone).map fun (p, _) => (p, none)

end Autofix.Disk
