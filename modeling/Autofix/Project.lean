import Autofix.Config
import Autofix.Disk.Walk
import Autofix.SourceText

/-!
# Projects

A project file names the sources of a compilation unit: a list of files, and globs for further ones,
all seen from its folder. The texts of the members are read when the project is loaded and kept, so
that what is linted is what the project was loaded with.

* `ProjectFile` is what the document says;
* `Project.listed` and `Project.matched` are the members that are named and the ones found by globs;
* `Project.load` reads them, and `Project.textOf?` gives the text of a member.
-/

namespace Autofix

/-- What a project file says; other fields are left to compilers. -/
structure ProjectFile where
  files : Option (List String) := none
  includes : Option (List String) := none
  excludes : Option (List String) := none
  extensions : Option (List String) := none
  deriving DecidableEq, Repr, Inhabited

namespace ProjectFile

def fieldNames : List String := ["files", "include", "exclude", "extensions"]

/-- Reads the field of a name. -/
def takeField (f : ProjectFile) (name : String) (v : Json) : Except DecodeError ProjectFile := do
  let texts ← Decoder.option (Decoder.list Decoder.string) v
  if name = "files" then return { f with files := texts }
  else if name = "include" then return { f with includes := texts }
  else if name = "exclude" then return { f with excludes := texts }
  else return { f with extensions := texts }

/-- Every field may be left out. -/
def decode : Decoder ProjectFile :=
  decodeRecord "ProjectFile" fieldNames {} takeField ignoreField fun _ f => return f

/-- Reads a document; an empty one names nothing. -/
def ofText (path : Path) (text : String) : Except Problem ProjectFile :=
  match Json.read? text with
  | .error flaw => .error (.invalidProjectJson path flaw)
  | .ok v => (decode (v.getD (.object []))).mapError (.invalidProject path)

/-- The globs of members: everything, if the file names neither files nor globs. -/
def effectiveIncludes (f : ProjectFile) : List String :=
  f.includes.getD (if f.files.isSome then [] else ["**/*"])

/-- The globs of what is never a member by a glob. -/
def effectiveExcludes (f : ProjectFile) : List String :=
  f.excludes.getD ["**/node_modules/**"]

/-- The extensions of members found by globs; an empty list allows all names. -/
def effectiveExtensions (f : ProjectFile) : List String :=
  f.extensions.getD ["ts", "tsx", "mts", "cts", "js", "jsx", "mjs", "cjs"]

end ProjectFile

/-- A loaded project: its file, and its members in order with the texts kept for them. -/
structure Project where
  path : Path
  members : List (Path × String)
  deriving Repr, Inhabited

namespace Project

/-- The folder that the paths and globs of a project file are seen from. -/
def baseDir (path : Path) : Path := path.parent?.getD ⟨"."⟩

/-- Keeps the first of equal paths. -/
def distinct (ps : List Path) : List Path :=
  ps.foldl (fun seen p => if seen.contains p then seen else seen ++ [p]) []

/-- The members that are named, in order, each once. -/
def listed (f : ProjectFile) (base : Path) : List Path :=
  distinct ((f.files.getD []).map fun file => (base.join ⟨file⟩).normalize)

/-- The globs of a list of texts, which make up a set. -/
def globs (texts : List String) : Except Problem (List Glob) := do
  let gs ← texts.mapM fun text => (Glob.ofText? true text).mapError .invalidProjectGlob
  (Glob.asSet gs).mapError .globSet

def isHidden (name : String) : Bool := name.toList.head? = some '.'

/-- Whether the extension of a file is an allowed one. -/
def hasExtension (allowed : List String) (path : Path) : Bool :=
  allowed.isEmpty || path.extension?.any allowed.contains

/-- Whether something met by the walk below the folder of a project is one of its members. -/
def isMatch (extensions : List String) (includes excludes : List Glob) (base : Path)
    (e : Disk.Entry) : Bool :=
  !e.node.isFolder && hasExtension extensions e.path
    && !(e.path.fileName?.any LintConfig.fileNames.contains)
    && (e.path.stripBase? base).any fun relative =>
      Glob.anySelects includes relative && !Glob.anySelects excludes relative

/-- Paths in their order. -/
def sorted (ps : List Path) : List Path := ps.mergeSort fun p q => (p.compare q).isLE

/-- The members found by globs, in the order of paths. The project file itself and the files that
    are named are not among them. -/
def matched (d : Disk) (path : Path) (f : ProjectFile) (named : List Path) :
    Traced LintError (List Path) := do
  let base := baseDir path
  if f.effectiveIncludes.isEmpty then return []
  else
    let includes ← Traced.ofExcept ((globs f.effectiveIncludes).mapError .config)
    let excludes ← Traced.ofExcept ((globs f.effectiveExcludes).mapError .config)
    let entries ← Traced.ofExcept
      ((d.entries (fun name => !isHidden name) base).mapError .walk)
    let found := (entries.filter (isMatch f.effectiveExtensions includes excludes base)).map
      fun e => e.path.normalize
    let members := sorted (found.filter fun p => p ≠ path.normalize && !named.contains p)
    Traced.note (.debug s!"Project include patterns matched {members.length} files")
    return members

/-- Reads the members that are named; each has to be there. -/
def readListed (d : Disk) : List Path → Traced LintError (List (Path × String))
  | [] => return []
  | file :: rest => do
    let text ← Traced.ofExcept ((SourceText.read d file).mapError fun _ => .unreadableFile file)
    return (file, text) :: (← readListed d rest)

/-- Reads the members found by globs; those that hold no text are left out. -/
def readMatched (d : Disk) : List Path → Traced LintError (List (Path × String))
  | [] => return []
  | file :: rest =>
    match SourceText.read d file with
    | .ok text => do return (file, text) :: (← readMatched d rest)
    | .error .notText => do
      Traced.note (.warn s!"Skipping non-UTF-8 file {file.text}")
      readMatched d rest
    | .error _ => .fail (.unreadableFile file)

/-- Loads the project that a file describes. -/
def load (d : Disk) (path : Path) : Traced LintError Project := do
  let text ← Traced.ofExcept ((d.readText path).mapError fun _ => .unreadableFile path)
  let f ← Traced.ofExcept ((ProjectFile.ofText path text).mapError .config)
  let named := listed f (baseDir path)
  let found ← matched d path f named
  let namedTexts ← readListed d named
  let foundTexts ← readMatched d found
  let members := namedTexts ++ foundTexts
  Traced.note (.info s!"Loaded project {path.text} with {members.length} files")
  return ⟨path, members⟩

/-- The members, the named ones first, then those found by globs in the order of paths. -/
def fileNames (p : Project) : List Path := p.members.map (·.1)

/-- The text kept for a member, under any spelling of its path. -/
def textOf? (p : Project) (file : Path) : Option String := p.members.lookup file.normalize

end Project

end Autofix
