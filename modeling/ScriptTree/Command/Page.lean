import ScriptTree.Basic

namespace ScriptTree

namespace Command

/-- What a help page is about. -/
inductive Page where
  | program
  | parse
  | parseDir
  | segment
deriving DecidableEq

/-- A flag. All but the first two take a value. -/
inductive Flag where
  | help
  | version
  | output
  | config
  | source
  | template
deriving DecidableEq

namespace Flag

/-- The long name of a flag. -/
def long : Flag → Text
  | help => "--help"
  | version => "--version"
  | output => "--output"
  | config => "--config"
  | source => "--source"
  | template => "--template"

/-- The letter of a flag, if it has one. -/
def letter? : Flag → Option CodePoint
  | output => some (CodePoint.ofChar 'o')
  | template => some (CodePoint.ofChar 't')
  | _ => none

/-- Whether a flag takes a value. -/
def takesValue : Flag → Bool
  | help => false
  | version => false
  | _ => true

end Flag

namespace Page

/-- The name of a command. -/
def name : Page → Text
  | program => "esdump"
  | parse => "parse"
  | parseDir => "parse-dir"
  | segment => "segment"

def commands : List Page := [parse, parseDir, segment]

/-- The command of a name. -/
def command? (name : Text) : Option Page := commands.find? fun p => p.name = name

/-- What is typed before the arguments. -/
def path : Page → Text
  | program => program.name
  | p => program.name ++ " " ++ p.name

/-- The flags of a page, in the order in which they are declared. -/
def flags : Page → List Flag
  | program => [.version, .help]
  | parse => [.help]
  | parseDir => [.output, .help]
  | segment => [.config, .source, .output, .template, .help]

/-- Whether flags may follow other arguments. -/
def mixes : Page → Bool
  | program => false
  | _ => true

/-- The arguments of a page, as its usage line shows them. -/
def arguments : Page → Text
  | program => "[OPTIONS] COMMAND [ARGS]..."
  | parse => "[OPTIONS] FILE_PATH"
  | parseDir => "[OPTIONS] SOURCE_DIR"
  | segment => "[OPTIONS]"

/-- The usage line. -/
def usage (p : Page) : Text := "Usage: " ++ p.path ++ " " ++ p.arguments

/-- What a page says below its usage line. -/
def description : Page → List Text
  | program => List.map Text.ofString
    ["  esdump — ECMAScript AST extraction and canonical JSON serialization.",
     "",
     "  Parse a script or module with esprima and print its syntax tree as",
     "  deterministic, 4-space indented JSON. Files whose name ends in ``module.js``",
     "  are parsed as modules, everything else as scripts.",
     "",
     "Options:",
     "  --version  Show the version and exit.",
     "  --help     Show this message and exit.",
     "",
     "Commands:",
     "  parse      Print the syntax tree of FILE_PATH as JSON on stdout.",
     "  parse-dir  Dump every .js file under SOURCE_DIR to a mirrored .json file.",
     "  segment    Slice the statement corpus into numbered test fixtures."]
  | parse => List.map Text.ofString
    ["  Print the syntax tree of FILE_PATH as JSON on stdout.",
     "",
     "Options:",
     "  --help  Show this message and exit."]
  | parseDir => List.map Text.ofString
    ["  Dump every .js file under SOURCE_DIR to a mirrored .json file.",
     "",
     "Options:",
     "  -o, --output TEXT  Output directory for JSON files",
     "  --help             Show this message and exit."]
  | segment => List.map Text.ofString
    ["  Slice the statement corpus into numbered test fixtures.",
     "",
     "  Paths come from configuration (esdump.yaml), not from the command line,",
     "  unless overridden.",
     "",
     "Options:",
     "  --config TEXT                 Path to esdump.yaml",
     "  --source TEXT                 Override the corpus file",
     "  -o, --output TEXT             Override the fixture output file",
     "  -t, --template [pytest|rust]",
     "  --help                        Show this message and exit."]

/-- The help page. -/
def help (p : Page) : Text := Text.unlines (p.usage :: [] :: p.description) ++ "\n"

/-- What the program says about its version. -/
def version : Text := "esdump, version 0.1.0\n"

end Page

end Command

end ScriptTree
