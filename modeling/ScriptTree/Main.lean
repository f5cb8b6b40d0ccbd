import ScriptTree.Command.Console
import ScriptTree.Command.Reading

namespace ScriptTree

namespace Command

/-- A path that a command looks at, alone or with everything below it. -/
structure Wish where
  path : Text
  below : Bool
deriving DecidableEq

/-- A wish for what is at a path alone. -/
def Wish.at (path : Text) : Wish := ⟨path, false⟩

/-- What parsing the sources below a directory looks at. -/
def wantedByParseDir (fs : FileSystem) (source output : Text) : List Wish :=
  let root := Path.ofText source
  let sources := (fs.scan root).toOption.getD []
  let targets := sources.filterMap fun p => (p.mirror root (Path.ofText output)).toOption
  ⟨source, true⟩ :: targets.map fun p => Wish.at p.text

/-- What segmenting a corpus looks at. -/
def wantedBySegment (services : Services) (fs : FileSystem) (config : Option Text)
    (overrides : Fields (Option Text)) : List Wish :=
  let named := match (fs.settings services.load config).bind fun s => s.override overrides with
    | .ok settings => [settings.source, settings.output]
    | .error _ => []
  ((config.getD Corpus.Settings.defaultFile) :: named).map Wish.at

/-- What a command line looks at: its arguments and what they lead to. -/
def wanted (services : Services) (fs : FileSystem) (arguments : List Text) : List Wish :=
  let led := match services.read fs arguments with
    | .ok (.parse file) => [Wish.at file]
    | .ok (.parseDir source output) => wantedByParseDir fs source output
    | .ok (.segment config source output template) =>
      wantedBySegment services fs config
        [("source", source), ("output", output), ("template", template)]
    | _ => []
  arguments.map Wish.at ++ led

end Command

namespace Program

open Command

/-- The name of a place for the operating system. -/
def placeName (place : List Text) : String :=
  Text.toString (Path.slash :: Text.join [Path.slash] place)

/-- The entry at a place, with everything below a directory if asked for. -/
partial def lookUp (place : List Text) (below : Bool) : IO (Option Entry) := do
  let here := (← IO.currentDir) / placeName place
  if !(← here.pathExists) then return none
  if !(← here.isDir) then
    return some (.file (← IO.FS.readBinFile here).toList)
  if !below then return some (.directory [])
  let mut entries : List (Text × Entry) := []
  for child in ← here.readDir do
    let name := Text.ofString child.fileName
    if let some entry ← lookUp (place ++ [name]) true then
      entries := entries ++ [(name, entry)]
  return some (.directory entries)

/-- The files known after a look at the places that names lead to. -/
def learn (fs : FileSystem) (below : Bool) : List Text → List Text → IO FileSystem
  | _, [] => return fs
  | place, name :: names => do
    let place := if name = ".." then place.dropLast else place ++ [name]
    let isWhole := below && names.isEmpty
    if (fs.entryAt? place).isSome && !isWhole then
      learn fs below place names
    else
      match ← lookUp place isWhole with
      | none => return fs
      | some entry => learn { fs with top := Entry.insert entry place fs.top } below place names

/-- The files known after a look at what a wish is for. -/
def grant (fs : FileSystem) (wish : Wish) : IO FileSystem :=
  let p := Path.ofText wish.path
  if wish.below && p.names.isEmpty then do
    match ← lookUp (fs.start p) true with
    | none => return fs
    | some entry => return { fs with top := Entry.insert entry (fs.start p) fs.top }
  else learn fs wish.below (fs.start p) p.names

/-- The files known after as many rounds of wishes as one wish can lead to another. -/
def explore (arguments : List Text) (fs : FileSystem) : Nat → IO FileSystem
  | 0 => return fs
  | n + 1 => do
    let fs ← (wanted .standard fs arguments).foldlM grant fs
    explore arguments fs n

/-- The working directory and nothing else. -/
def atHome : IO FileSystem := do
  let home := (Path.ofText (Text.ofString (← IO.currentDir).toString)).names
  learn { top := .directory [], workingDirectory := home } false [] home

/-- Writes the files that differ from what they were. -/
def save (before after : FileSystem) : IO Unit := do
  for place in after.top.filesBelow do
    if let some (.file new) := after.entryAt? place then
      let isSame : Bool := match before.entryAt? place with
        | some (.file old) => old = new
        | _ => false
      unless isSame do
        IO.FS.createDirAll (placeName place.dropLast)
        IO.FS.writeBinFile (placeName place) ⟨new.toArray⟩

/-- Carries out what a command line asks for. -/
def run (arguments : List Text) : IO UInt32 := do
  let fs ← explore arguments (← atHome) 3
  let outcome := Outcome.ofArguments .standard fs arguments
  (← IO.getStderr).putStr (Text.toString (Console.render outcome.stderr))
  save fs outcome.files
  (← IO.getStdout).putStr (Text.toString outcome.stdout)
  match outcome.ending with
  | .exit status => return UInt32.ofNat status
  | .escape failure =>
    (← IO.getStderr).putStr (Text.toString (failure.message ++ "\n"))
    return 1

end Program

end ScriptTree

def main (arguments : List String) : IO UInt32 :=
  ScriptTree.Program.run (arguments.map ScriptTree.Text.ofString)
