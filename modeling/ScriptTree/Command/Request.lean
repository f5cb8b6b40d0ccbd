import ScriptTree.Files.Source

namespace ScriptTree

namespace Command

/-- What a command line asks for. -/
inductive Request where
  /-- A text about the program: help, or its version. -/
  | information (text : Text)
  /-- The tree of a file. -/
  | parse (file : Text)
  /-- The trees of all sources below a directory. -/
  | parseDir (source output : Text)
  /-- The fixtures of a corpus, with overrides for the settings in a file. -/
  | segment (config source output template : Option Text)
deriving DecidableEq

/-- Why a command line asks for nothing. -/
inductive Refused where
  /-- It is misused, with what the user is told about that. -/
  | misused (message : Text)
  /-- The directory cannot be named. -/
  | path (flaw : PathFlaw)
deriving DecidableEq

/-- A reader of command lines, which may look at the files. -/
abbrev Reader := FileSystem → List Text → Except Refused Request

def hyphen : CodePoint := CodePoint.ofChar '-'

/-- What the commands rely on in a reader of command lines, as they declare their arguments. -/
structure Reader.IsLawful (read : Reader) : Prop where
  /-- An argument that starts with no hyphen is the file to parse. -/
  parse (fs : FileSystem) {file : Text} (h : file.head? ≠ some hyphen) :
    read fs ["parse", file] = .ok (.parse file)
  /-- A directory whose sources are to be parsed can be named and is there. -/
  directory {fs : FileSystem} {arguments : List Text} {source output : Text}
    (h : read fs arguments = .ok (.parseDir source output)) :
    source.pathFlaw? = none ∧ fs.kind? source = some .directory
  /-- Of the files it matters only that this directory is there. -/
  again {fs files : FileSystem} {arguments : List Text} {source output : Text}
    (h : read fs arguments = .ok (.parseDir source output))
    (hkind : files.kind? source = some .directory) :
    read files arguments = .ok (.parseDir source output)
  /-- A command line for the segmenter that does not ask for help is a request or misused. -/
  segment (fs : FileSystem) {arguments : List Text} (h : Text.ofString "--help" ∉ arguments) :
    (∃ message, read fs ("segment" :: arguments) = .error (.misused message)) ∨
      ∃ config source output template,
        read fs ("segment" :: arguments) = .ok (.segment config source output template)

end Command

end ScriptTree
