import Autofix.LintError
import Autofix.Regex
import Autofix.Text.Quoted

/-!
# Include patterns

An include pattern selects paths below a root. It is cut into segments at `/` and `\`; in a segment
`*` is any run of characters other than separators, and a segment that starts with `**` also reaches
over any number of whole segments, line breaks excepted. A pattern that names a directory selects
what is below it, too.

* `Include.pieces` is a pattern as a sequence of `Piece`s;
* `Include.source` writes several patterns as one regular expression, piece by piece;
* `Include.Matcher` is that expression, ready for matching.
-/

namespace Autofix.Include

/-- A part of a pattern. -/
inductive Piece where
  | literal (c : Char)
  /-- Any run of characters within a segment. -/
  | run
  /-- Any run of characters, separators included. -/
  | reach
  /-- Nothing, or any run of characters that is not empty and a separator. -/
  | folders
  | separator
  deriving DecidableEq, Repr

def isSeparator (c : Char) : Bool := c = '/' || c = '\\'

/-! ### Reading -/

/-- Cuts a pattern at its separators. -/
def segments : List Char → List (List Char)
  | [] => [[]]
  | c :: rest =>
    match segments rest with
    | [] => [[c]]
    | s :: ss => if isSeparator c then [] :: s :: ss else (c :: s) :: ss

/-- The pieces of a segment without regard to a `**` at its start. -/
def plain (segment : List Char) : List Piece :=
  segment.map fun c => if c = '*' then .run else .literal c

/-- The pieces of the segments of a pattern. -/
def segmentPieces : List (List Char) → List Piece
  | [] => []
  | ['*', '*'] :: [] => [.reach]
  | ['*', '*'] :: rest => .folders :: segmentPieces rest
  | segment :: rest =>
    let own := match segment with
      | '*' :: '*' :: more => .reach :: plain more
      | segment => plain segment
    match rest with
    | [] => own
    | rest => own ++ .separator :: segmentPieces rest

def pieces (pattern : String) : List Piece := segmentPieces (segments pattern.toList)

/-! ### Writing -/

def separatorSource : List Char := "[/\\\\]".toList

def Piece.source : Piece → List Char
  | .literal c => if Regex.isMeta c then ['\\', c] else [c]
  | .run => "[^/\\\\]*".toList
  | .reach => "(?:.+?)?".toList
  | .folders => "(?:.+?".toList ++ separatorSource ++ ")?".toList
  | .separator => separatorSource

/-- The pieces of a pattern, in a group. -/
def group (pattern : String) : List Char :=
  '(' :: (pieces pattern).flatMap Piece.source ++ [')']

/-- Patterns as one regular expression. A match starts at the front of a text, and ends there or
    before a separator. -/
def source (patterns : List String) : String :=
  String.ofList ("^(?:".toList ++ List.intercalate ['|'] (patterns.map group)
    ++ ")(?:$|".toList ++ separatorSource ++ [')'])

/-! ### Matching -/

/-- Patterns that are ready for matching. -/
structure Matcher where
  source : String
  regex : Regex
  deriving Inhabited

/-- Reads patterns. -/
def Matcher.ofPatterns? (patterns : List String) : Except LintError Matcher :=
  let source := Include.source patterns
  match Regex.read? {} source with
  | .ok regex => .ok ⟨source, regex⟩
  | .error flaw => .error (.pattern s!"{Text.quotedList patterns}: {flaw.message}")

/-- Whether one of the patterns selects a path, which is seen from the root. -/
def Matcher.isMatch (m : Matcher) (relative : String) : Bool := m.regex.isMatch relative.toList

/-- The same for patterns that have not been read yet; those that cannot be read select nothing. -/
def selects (patterns : List String) (relative : String) : Bool :=
  (Matcher.ofPatterns? patterns).toOption.any fun m => m.isMatch relative

end Autofix.Include
