import Autofix.Disk

/-!
# Source texts

The text of a source file, as rules see it: without the byte-order mark that may stand first.
-/

namespace Autofix.SourceText

def byteOrderMark : Char := '\uFEFF'

/-- A text without the byte-order mark at its front. Of two marks only the first one goes. -/
def withoutMark (s : String) : String :=
  match s.toList with
  | c :: rest => if c = byteOrderMark then String.ofList rest else s
  | [] => s

def read (d : Disk) (file : Path) : Except IoError String := (d.readText file).map withoutMark

end Autofix.SourceText
