import Autofix.Include
import Autofix.Project

/-!
# File sets

The files that a run lints, in order: the given ones, or the members of the project when no files
are given; then those below the root that an include pattern selects. A file selected twice is
there twice.
-/

namespace Autofix

structure FileSet where
  files : List Path
  /-- The project that the first part comes from. -/
  project : Option Project
  deriving Repr, Inhabited

namespace FileSet

/-- All files below a folder, links to folders followed, in the order of a walk. -/
def allBelow (d : Disk) (dir : Path) : Traced LintError (List Path) :=
  let (files, trace) := d.filesBelow dir
  ⟨files.mapError .walk, trace⟩

/-- The given files, or the members of the project. -/
def named (d : Disk) (options : TaskOptions) (root : Path) : Traced LintError FileSet :=
  let given := ⟨options.files.map fun file => root.join ⟨file⟩, none⟩
  match options.compilerConfigPath with
  | some projectPath =>
    if options.files.isEmpty then
      let path := root.join projectPath
      if d.has path then do
        let project ← Project.load d path
        return ⟨project.fileNames, some project⟩
      else .fail (.missingProjectFile path)
    else return given
  | none => return given

/-- The files below the root that an include pattern selects. -/
def included (d : Disk) (patterns : List String) (root : Path) :
    Traced LintError (List Path) := do
  if patterns.isEmpty then return []
  else
    let matcher ← Traced.ofExcept (Include.Matcher.ofPatterns? patterns)
    Traced.note (.debug s!"Include regex: {matcher.source}")
    let all ← allBelow d root
    let selected := all.filter fun file =>
      (file.stripBase? root).any fun relative => matcher.isMatch relative.text
    Traced.note (.debug s!"{selected.length} files matched include patterns")
    return selected

/-- The files that the options select under a root. -/
def resolve (d : Disk) (options : TaskOptions) (root : Path) : Traced LintError FileSet := do
  let first ← named d options root
  let more ← included d options.includes root
  let files := first.files ++ more
  Traced.note (.info s!"Resolved {files.length} files to lint")
  return ⟨files, first.project⟩

end FileSet

end Autofix
