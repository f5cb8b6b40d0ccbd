import ScriptTree.Command.Line
import ScriptTree.Command.Outcome
import ScriptTree.Yaml.Document

namespace ScriptTree

namespace Command

/-- The directory below which output goes where none is named. -/
def defaultOutput : Text := "./ast_json"

/-- What the user of a page is told about a problem. -/
def misuse (page : Page) (problem : Problem) : Refused :=
  .misused (Text.unlines
    [page.usage, "Try '" ++ page.path ++ " --help' for help.", [], "Error: " ++ problem.message]
      ++ "\n")

/-- The only one of a page's arguments. -/
def single (page : Page) (name : Text) (arguments : List Text) : Except Refused Text :=
  match arguments with
  | [] => .error (misuse page (.argumentMissing name))
  | [argument] => .ok argument
  | _ :: rest => .error (misuse page (.argumentsLeft rest))

namespace Request

/-- A text asked for instead of work. -/
def ofInquiry (page : Page) : Flag → Request
  | .version => information Page.version
  | _ => information page.help

/-- A request to parse a file. -/
def ofParse (line : Line) : Except Refused Request :=
  (single .parse "FILE_PATH" line.plain).map parse

/-- A request to parse the files below a directory, which must be there. -/
def ofParseDir (fs : FileSystem) (line : Line) : Except Refused Request := do
  let output := (line.value? .output).getD defaultOutput
  match line.plain with
  | [] => .error (misuse .parseDir (.argumentMissing "SOURCE_DIR"))
  | source :: _ =>
    match source.pathFlaw?, fs.kind? source with
    | some flaw, _ => .error (.path flaw)
    | none, none => .error (misuse .parseDir (.noDirectory source))
    | none, some .file => .error (misuse .parseDir (.noDirectoryButFile source))
    | none, some .directory =>
      (single .parseDir "SOURCE_DIR" line.plain).map fun source => parseDir source output

/-- A request to segment a corpus. -/
def ofSegment (line : Line) : Except Refused Request :=
  let request := segment (line.value? .config) (line.value? .source) (line.value? .output)
    (line.value? .template)
  let unknown := (line.value? .template).filter fun name => (Template.named? name).isNone
  match unknown, line.plain with
  | some name, _ => .error (misuse .segment (.unknownTemplate name))
  | none, [] => .ok request
  | none, arguments => .error (misuse .segment (.argumentsLeft arguments))

/-- The request that the arguments of a command make. -/
def ofArguments (fs : FileSystem) (page : Page) (arguments : List Text) : Except Refused Request :=
  match Line.read page arguments with
  | .error problem => .error (misuse page problem)
  | .ok line =>
    match line.inquiry? with
    | some flag => .ok (ofInquiry page flag)
    | none =>
      match page with
      | .parse => ofParse line
      | .parseDir => ofParseDir fs line
      | .segment => ofSegment line
      | .program => .error (misuse .program .commandMissing)

/-- What is wrong with a name that no command has. One that starts like a flag is read as one, with
what follows it. -/
def ofUnknown (name : Text) (rest : List Text) : Except Refused Request :=
  let unknown := Problem.noCommand name (Similar.closest name (Page.commands.map Page.name))
  match Line.read .program (name :: rest) with
  | .error problem => .error (misuse .program problem)
  | .ok line =>
    match line.inquiry? with
    | some flag => .ok (ofInquiry .program flag)
    | none => .error (misuse .program unknown)

/-- The request that a command line makes. -/
def read : Reader := fun fs arguments =>
  if arguments.isEmpty then .error (.misused (Page.help .program))
  else
    match Line.read .program arguments with
    | .error problem => .error (misuse .program problem)
    | .ok line =>
      match line.inquiry?, line.plain with
      | some flag, _ => .ok (ofInquiry .program flag)
      | none, [] => .error (misuse .program .commandMissing)
      | none, name :: rest =>
        match Page.command? name with
        | some page => ofArguments fs page rest
        | none => ofUnknown name rest

end Request

/-- The parser, the loader and the reader that the program has. -/
def Services.standard : Services where
  parser := sourceParser
  load := Yaml.loader
  read := Request.read

end Command

end ScriptTree
