import Autofix.Path
import Autofix.Trace

/-!
# The configuration of the current folder

The configuration of a file depends on its folder. A run that goes from file to file keeps the
configuration that it loaded last, and uses it while the files lie in the same folder. Only the
folder before counts: when a run comes back to an earlier one, its configuration is loaded again.
-/

namespace Autofix

/-- The configuration that was loaded last, with its folder, unless loading it failed. -/
structure CurrentConfig (κ : Type) where
  held : Option (Path × κ) := none
  /-- How many times a configuration was loaded, or could not be. -/
  loads : Nat := 0
  deriving Repr, Inhabited

namespace CurrentConfig

variable {κ ε : Type}

/-- The folder of a file. -/
def folder (file : Path) : Path := file.folder

/-- The configuration that is kept, if it is for the folder of the file. -/
def get? (current : CurrentConfig κ) (file : Path) : Option κ :=
  current.held.bind fun (dir, config) => if dir.same (folder file) then some config else none

/-- What is kept once loading a configuration for a file has come to a result. -/
def afterLoad (current : CurrentConfig κ) (file : Path) (loaded : Except ε κ) : CurrentConfig κ :=
  match loaded with
  | .ok config => ⟨some (folder file, config), current.loads + 1⟩
  | .error _ => ⟨none, current.loads + 1⟩

/-- The configuration for a file: the one that is kept, or else what `load` gives, which is kept
    from then on. Before it is loaded, `note` gets a remark. -/
def forFile {m : Type → Type} [Monad m] (note : Event → m Unit) (load : m (Except ε κ))
    (current : CurrentConfig κ) (file : Path) : m (Except ε κ × CurrentConfig κ) :=
  match current.get? file with
  | some config => return (.ok config, current)
  | none => do
    note (.debug s!"Loading configuration for {(folder file).text}")
    let loaded ← load
    return (loaded, current.afterLoad file loaded)

end CurrentConfig

end Autofix
