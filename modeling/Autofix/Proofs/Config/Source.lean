import Autofix.Engine.Rules
import Mathlib.Tactic.SplitIfs

/-!
# Files that configurations come from

A source leads to a configuration file, or to none (`ConfigSource.file?`). What is read from the
source is what the file comes to (`Ruleset.read_eq_ok_iff`).
-/

namespace Autofix

/-- The configuration file that a source leads to. -/
def ConfigSource.file? (d : Disk) : ConfigSource → Option Path
  | .file path root => if d.isFile (root.join path) then some (root.join path) else none
  | .search path => LintConfig.findAt d path
  | .nearest path => LintConfig.findNearest d path

namespace Ruleset

variable {d : Disk} {source : ConfigSource} {p : Path} {c : LintConfig}

/-- What is read where a source leads to a file. -/
theorem read_eq_ok_iff (h : source.file? d = some p) :
    (read d source).result = .ok c ↔ (LintConfig.ofFile d p).result = .ok c := by
  have hmap : ∀ x : Traced Problem LintConfig,
      (x.mapError LintError.config).result = .ok c ↔ x.result = .ok c :=
    fun _ => mapError_eq_ok_iff
  cases source with
  | file path root =>
    simp only [ConfigSource.file?] at h
    split_ifs at h with hfile
    obtain rfl := Option.some.inj h
    simp only [read, hfile, if_true, hmap]
  | search path =>
    simp only [ConfigSource.file?] at h
    simp only [read, h, hmap]
  | nearest path =>
    simp only [ConfigSource.file?] at h
    simp only [read, h, hmap]

end Ruleset

end Autofix
