import Autofix.Diagnostic

/-!
# Diagnostics by file

Reports show diagnostics file by file. A group holds the diagnostics of one path in their order, and
the groups are in the order in which their paths first appear.
-/

namespace Autofix.Diagnostic

/-- Adds a diagnostic to the group of its path, or as a group of its own at the end. -/
def insertGroup (d : Diagnostic) :
    List (Path × List Diagnostic) → List (Path × List Diagnostic)
  | [] => [(d.path, [d])]
  | (path, group) :: rest =>
    if path.same d.path then (path, group ++ [d]) :: rest
    else (path, group) :: insertGroup d rest

/-- The groups of a list of diagnostics. Each shows the spelling of its path that came first. -/
def byPath (ds : List Diagnostic) : List (Path × List Diagnostic) :=
  ds.foldl (fun groups d => insertGroup d groups) []

end Autofix.Diagnostic
