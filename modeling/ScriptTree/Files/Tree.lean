import ScriptTree.Basic
import ScriptTree.Files.Path
import ScriptTree.Text.Utf8

namespace ScriptTree

/-- A file or a directory. -/
inductive Entry where
  | file (content : List UInt8)
  | directory (entries : List (Text × Entry))

/-- Why an operation on a path is refused. -/
inductive Refusal where
  | missing
  | occupied
  | notDirectory
  | isDirectory
  | nameTooLong
deriving DecidableEq

/-- A refused operation and the path it was asked for. -/
structure FileError where
  refusal : Refusal
  path : Text
deriving DecidableEq

def Refusal.number : Refusal → Nat
  | missing => 2
  | occupied => 17
  | notDirectory => 20
  | isDirectory => 21
  | nameTooLong => 36

/-- The wording of a refusal. -/
def Refusal.message : Refusal → Text
  | missing => "No such file or directory"
  | occupied => "File exists"
  | notDirectory => "Not a directory"
  | isDirectory => "Is a directory"
  | nameTooLong => "File name too long"

/-- The wording of a file error. -/
def FileError.message (e : FileError) : Text :=
  "[Errno " ++ Text.ofNat e.refusal.number ++ "] " ++ e.refusal.message ++ ": "
    ++ Text.quoted e.path

/-- The number of bytes of a code point in a file name. A surrogate half there stands for a byte. -/
def CodePoint.nameBytes (c : CodePoint) : Nat :=
  if c.val < 0x80 ∨ c.IsSurrogate then 1
  else if c.val < 0x800 then 2
  else if c.val < 0x10000 then 3
  else 4

/-- The number of bytes of a file name. -/
def Text.nameBytes (t : Text) : Nat := t.foldl (fun n c => n + c.nameBytes) 0

/-- No directory holds a name of more bytes. -/
def mostNameBytes : Nat := 255

/-- No operation takes a path of more bytes. -/
def mostPathBytes : Nat := 4095

/-- A path of more bytes than operations take. -/
def Text.isLongPath (t : Text) : Bool := mostPathBytes < t.nameBytes

namespace Entry

instance : Inhabited Entry := ⟨.directory []⟩

/-- The entry a list of names leads to. -/
def find? : List Text → Entry → Option Entry
  | [], entry => some entry
  | _ :: _, file _ => none
  | name :: names, directory entries => (Fields.get? name entries).bind (find? names)

/-- The tree with an entry put where a list of names leads; unchanged if no directory is there to
hold it. -/
def insert (new : Entry) : List Text → Entry → Entry
  | [], _ => new
  | _ :: _, file content => file content
  | [name], directory entries => directory (Fields.put name new entries)
  | name :: names, directory entries =>
    match Fields.get? name entries with
    | some child => directory (Fields.put name (insert new names child) entries)
    | none => directory entries

mutual

/-- The names that lead to the files below an entry. -/
def filesBelow : Entry → List (List Text)
  | file _ => []
  | directory entries => filesAmong entries

def filesAmong : List (Text × Entry) → List (List Text)
  | [] => []
  | (name, file _) :: rest => [name] :: filesAmong rest
  | (name, directory entries) :: rest =>
    (filesAmong entries).map (name :: ·) ++ filesAmong rest

end

mutual

/-- The names that lead to the files and directories below an entry, those in it before those
further below. -/
def namesBelow : Entry → List (List Text)
  | file _ => []
  | directory entries => entries.map (fun child => [child.1]) ++ namesDeeper entries

def namesDeeper : List (Text × Entry) → List (List Text)
  | [] => []
  | (name, child) :: rest => (namesBelow child).map (name :: ·) ++ namesDeeper rest

end

end Entry

/-- A tree without links, and the place in it that relative paths start from. -/
structure FileSystem where
  top : Entry
  workingDirectory : List Text

namespace FileSystem

/-- The entry at a place. -/
def entryAt? (fs : FileSystem) (place : List Text) : Option Entry := fs.top.find? place

/-- The place that names lead to from a place, where every name but the last must be that of a
directory and none may be too long. There is nothing above the top. -/
def follow (fs : FileSystem) : List Text → List Text → Except Refusal (List Text)
  | place, [] => .ok place
  | place, name :: names =>
    match fs.entryAt? place with
    | none => .error .missing
    | some (.file _) => .error .notDirectory
    | some (.directory _) =>
      if mostNameBytes < Text.nameBytes name then .error .nameTooLong
      else fs.follow (if name = ".." then place.dropLast else place ++ [name]) names

/-- The place a path starts from. -/
def start (fs : FileSystem) (p : Path) : List Text :=
  match p.anchor with
  | .relative => fs.workingDirectory
  | _ => []

/-- The place of a path. -/
def place (fs : FileSystem) (p : Path) : Except Refusal (List Text) :=
  if Text.isLongPath p.text then .error .nameTooLong else fs.follow (fs.start p) p.names

/-- What the end of a text asks of the place it names. -/
inductive Ending where
  | plain
  /-- A final slash. -/
  | slash
  /-- A final dot segment. -/
  | dot
deriving DecidableEq

/-- The ending of a path's text. -/
def endingOf (t : Text) : Ending :=
  match (Text.split Path.slash t).getLast?.getD [] with
  | [] => .slash
  | segment => if segment = "." then .dot else .plain

/-- The content of the file that a path's text names. -/
def read (fs : FileSystem) (t : Text) : Except FileError (List UInt8) :=
  if t.isEmpty then .error ⟨.missing, t⟩
  else if t.isLongPath then .error ⟨.nameTooLong, t⟩
  else
    match fs.place (Path.ofText t) with
    | .error refusal => .error ⟨refusal, t⟩
    | .ok place =>
      match fs.entryAt? place with
      | none => .error ⟨.missing, t⟩
      | some (.directory _) => .error ⟨.isDirectory, t⟩
      | some (.file content) =>
        if endingOf t = .plain then .ok content else .error ⟨.notDirectory, t⟩

/-- The place at which writing under a path's text puts a file. -/
def writePlace (fs : FileSystem) (t : Text) : Except Refusal (List Text) :=
  let p := Path.ofText t
  if t.isEmpty then .error .missing
  else if t.isLongPath then .error .nameTooLong
  else if endingOf t = .slash ∧ p.names ≠ [] then
    match fs.follow (fs.start p) p.names.dropLast with
    | .error refusal => .error refusal
    | .ok place =>
      match fs.entryAt? place with
      | none => .error .missing
      | some (.file _) => .error .notDirectory
      | some (.directory _) => .error .isDirectory
  else
    match fs.place p with
    | .error refusal => .error refusal
    | .ok place =>
      match fs.entryAt? place with
      | some (.directory _) => .error .isDirectory
      | some (.file _) => if endingOf t = .plain then .ok place else .error .notDirectory
      | none => if endingOf t = .plain then .ok place else .error .missing

/-- The file system with a content written to the file that a path's text names. -/
def write (fs : FileSystem) (t : Text) (content : List UInt8) : Except FileError FileSystem :=
  match fs.writePlace t with
  | .error refusal => .error ⟨refusal, t⟩
  | .ok place => .ok { fs with top := Entry.insert (.file content) place fs.top }

/-- Whether a path leads to a directory. -/
def isDirectory (fs : FileSystem) (p : Path) : Bool :=
  match fs.place p with
  | .ok place =>
    match fs.entryAt? place with
    | some (.directory _) => true
    | _ => false
  | .error _ => false

/-- A file or a directory. -/
inductive Kind where
  | file
  | directory
deriving DecidableEq

/-- What a path's text names, if it names anything. -/
def kind? (fs : FileSystem) (t : Text) : Option Kind :=
  if t.isEmpty ∨ t.isLongPath then none
  else
    match fs.place (Path.ofText t) with
    | .error _ => none
    | .ok place =>
      match fs.entryAt? place with
      | none => none
      | some (.directory _) => some .directory
      | some (.file _) => if endingOf t = .plain then some .file else none

/-- Whether a path leads to anything. -/
def has (fs : FileSystem) (p : Path) : Bool :=
  match fs.place p with
  | .ok place => (fs.entryAt? place).isSome
  | .error _ => false

/-- The file system with one more directory, whose parent must be there. -/
def makeDirectory (fs : FileSystem) (p : Path) : Except FileError FileSystem :=
  match fs.place p with
  | .error refusal => .error ⟨refusal, p.text⟩
  | .ok place =>
    match fs.entryAt? place with
    | some _ => .error ⟨.occupied, p.text⟩
    | none => .ok { fs with top := Entry.insert (.directory []) place fs.top }

/-- The file system with the directories of a path that were missing. The number bounds the names
of the path that may be missing. -/
def makeDirectories : Nat → FileSystem → Path → Except FileError FileSystem
  | 0, fs, p => if fs.isDirectory p then .ok fs else .error ⟨.missing, p.text⟩
  | n + 1, fs, p =>
    match fs.makeDirectory p with
    | .ok made => .ok made
    | .error e =>
      if e.refusal = .missing ∧ p.names ≠ [] then do
        let fs ← makeDirectories n fs p.parent
        match fs.makeDirectory p with
        | .ok made => .ok made
        | .error e => if fs.isDirectory p then .ok fs else .error e
      else if fs.isDirectory p then .ok fs
      else .error e

end FileSystem

end ScriptTree
