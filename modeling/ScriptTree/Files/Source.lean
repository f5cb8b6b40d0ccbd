import ScriptTree.Files.Tree

namespace ScriptTree

/-- Why a text can name no file at all. -/
inductive PathFlaw where
  /-- It holds the code point zero. -/
  | zero
  /-- It holds surrogate halves that stand for no byte: the first of them, its position and the
  position of the last half of its run. -/
  | surrogate (half : CodePoint) (first last : Nat)
deriving DecidableEq

/-- The wording of a flaw. -/
def PathFlaw.message : PathFlaw → Text
  | zero => "embedded null byte"
  | surrogate half first last =>
    let place : Text :=
      if first = last then
        "character '\\u" ++ Text.hexadecimal 4 half.val ++ "' in position " ++ Text.ofNat first
      else "characters in position " ++ Text.ofNat first ++ "-" ++ Text.ofNat last
    "'utf-8' codec can't encode " ++ place ++ ": surrogates not allowed"

/-- A surrogate half that stands for a byte of no encoded text. -/
def CodePoint.isByteHalf (c : CodePoint) : Bool := 0xDC80 ≤ c.val && c.val ≤ 0xDCFF

namespace Text

/-- The first surrogate half that stands for no byte, after a number of code points. -/
def surrogateFlaw? (position : Nat) : Text → Option PathFlaw
  | [] => none
  | c :: rest =>
    if c.IsSurrogate ∧ !c.isByteHalf then
      let run := rest.takeWhile fun d => decide d.IsSurrogate
      some (.surrogate c position (position + run.length))
    else surrogateFlaw? (position + 1) rest

/-- Why a text can name no file, if it cannot. -/
def pathFlaw? (t : Text) : Option PathFlaw :=
  surrogateFlaw? 0 t <|> (if t.any (·.val = 0) then some .zero else none)

end Text

/-- Why a file cannot be read as a text. -/
inductive ReadCause where
  | file (error : FileError)
  | encoding (error : Utf8.DecodeError)
deriving DecidableEq

/-- The wording of a cause. -/
def ReadCause.message : ReadCause → Text
  | file e => e.message
  | encoding e => e.message

/-- A file that cannot be read, by its normal path. -/
structure ReadError where
  path : Text
  cause : ReadCause
deriving DecidableEq

/-- The wording of a read error. -/
def ReadError.message (e : ReadError) : Text :=
  "Cannot read " ++ e.path ++ ": " ++ e.cause.message

/-- Why there is no source text. -/
inductive SourceError where
  | path (flaw : PathFlaw)
  | read (error : ReadError)
deriving DecidableEq

/-- The wording of a source error. -/
def SourceError.message : SourceError → Text
  | path flaw => flaw.message
  | read e => e.message

namespace FileSystem

/-- The text of a file. A byte order mark and all line ends are kept. -/
def readText (fs : FileSystem) (t : Text) : Except ReadCause Text :=
  match fs.read t with
  | .error e => .error (.file e)
  | .ok bytes =>
    match Utf8.decode bytes with
    | .error e => .error (.encoding e)
    | .ok text => .ok text

/-- The text of the source at a path. -/
def source (fs : FileSystem) (p : Path) : Except SourceError Text :=
  match p.text.pathFlaw? with
  | some flaw => .error (.path flaw)
  | none =>
    match fs.readText p.text with
    | .error cause => .error (.read ⟨p.text, cause⟩)
    | .ok text => .ok text

end FileSystem

/-- Names of directories whose contents are not sources of the project itself. -/
def skippedNames : List Text :=
  [".git", "node_modules", "bower_components", "__pycache__", ".venv", "venv", "dist", "build",
   "coverage", ".next", ".nuxt", ".cache", "target"]

/-- The suffixes of source files. -/
def sourceSuffixes : List Text := [".js", ".mjs", ".cjs"]

/-- Whether the names below a root are those of a source. -/
def Path.isSource (p : Path) : Bool :=
  !p.names.any (fun name => skippedNames.contains name) && sourceSuffixes.contains p.suffix

/-- The names of the sources below a directory, in order. -/
def Entry.sources (entry : Entry) : List (List Text) :=
  (entry.filesBelow.filter fun names => Path.isSource ⟨.relative, names⟩).mergeSort
    fun xs ys => !Text.namesBefore ys xs

/-- The sources below a root; none if it is no directory. The root and whatever lies below it are
looked at, and a path too long for that is refused. A root whose text can name nothing is no
directory, however long it is. -/
def FileSystem.scan (fs : FileSystem) (root : Path) : Except FileError (List Path) :=
  match fs.place root with
  | .error .nameTooLong =>
    if root.text.pathFlaw? = none then .error ⟨.nameTooLong, root.text⟩ else .ok []
  | .error _ => .ok []
  | .ok place =>
    match fs.entryAt? place with
    | some entry =>
      match entry.namesBelow.find? fun names => (root.append names).text.isLongPath with
      | some names => .error ⟨.nameTooLong, (root.append names).text⟩
      | none => .ok (entry.sources.map root.append)
    | none => .ok []

end ScriptTree
