import ScriptTree.Files.Path
import ScriptTree.Files.Source
import ScriptTree.Script.Parse
import ScriptTree.Tree.Convert
import ScriptTree.Tree.Encode
import ScriptTree.Tree.Walk

namespace ScriptTree

/-- The grammar of a source. -/
inductive GrammarMode where
  | script
  | module
deriving DecidableEq

namespace GrammarMode

/-- The name of a grammar. -/
def text : GrammarMode → Text
  | script => "script"
  | module => "module"

/-- The end of the names of modules. -/
def moduleEnding : Text := "module.js"

/-- The grammar of the source at a path: that of modules if its name ends like one. -/
def ofPath (p : Path) : GrammarMode :=
  if List.isSuffixOf moduleEnding p.name then module else script

end GrammarMode

/-- A source: its path and its grammar. -/
structure SourceUnit where
  path : Path
  mode : GrammarMode
deriving DecidableEq

/-- The source that a path's text names. -/
def SourceUnit.ofText (t : Text) : SourceUnit :=
  let p := Path.ofText t
  ⟨p, GrammarMode.ofPath p⟩

/-- A parser gives the raw value of a text under a grammar. It fails as well where the stack does not
suffice for what is done with the value. -/
abbrev SourceParser := GrammarMode → Text → Except ParseFailure Value

/-- The parser of scripts and modules. -/
def sourceParser : SourceParser := fun mode source =>
  (parse (mode = .module) source).map Ast.value

/-- Why a source has no dump. -/
inductive DumpFailure where
  | source (error : SourceError)
  | syntaxFault (fault : SyntaxFault)
  /-- What the parser gave is no node but a value of some kind. -/
  | noProgram (kind : Text)
  | encode (error : EncodeError)
  /-- The parser gave up. -/
  | gaveUp (failure : ParseFailure)

namespace DumpFailure

/-- The wording of a failure. -/
def message : DumpFailure → Text
  | source e => e.message
  | syntaxFault e => e.message
  | noProgram kind => "Parser returned " ++ kind ++ ", not a Program node"
  | encode e => e.message
  | gaveUp e => e.message

/-- What a failure is called in reports; only failures of a source are reported, others end the
program. -/
def label? : DumpFailure → Option Text
  | source (.read _) => some "ReadError"
  | source (.path _) => none
  | syntaxFault _ => some "ParseError"
  | noProgram _ => some "ParseError"
  | encode _ => some "EncodingError"
  | gaveUp _ => none

end DumpFailure

/-- The tree of a source. -/
structure SyntaxTree where
  root : Value
  mode : GrammarMode
  path : Text

def SyntaxTree.ofText (parser : SourceParser) (mode : GrammarMode) (path source : Text) :
    Except DumpFailure SyntaxTree :=
  match parser mode source with
  | .error (.fault e) => .error (.syntaxFault e)
  | .error failure => .error (.gaveUp failure)
  | .ok raw =>
    let root := raw.convert
    if root.isNode then .ok ⟨root, mode, path⟩ else .error (.noProgram raw.kind)

/-- The tree of a source, from what reading it under a path's text has given. -/
def SyntaxTree.ofRead (parser : SourceParser) (t : Text) (read : Except SourceError Text) :
    Except DumpFailure SyntaxTree := do
  let unit := SourceUnit.ofText t
  let source ← read.mapError .source
  ofText parser unit.mode unit.path.text source

/-- The text of the tree of a source, from what reading it under a path's text has given. -/
def dumpRead (parser : SourceParser) (t : Text) (read : Except SourceError Text) :
    Except DumpFailure Text := do
  let tree ← SyntaxTree.ofRead parser t read
  match tree.root.serialize Value.standardLayout with
  | .ok text => .ok text
  | .error e => .error (.encode e)

namespace FileSystem

/-- What reading the source gives that a path's text names. -/
def sourceAt (fs : FileSystem) (t : Text) : Except SourceError Text :=
  fs.source (SourceUnit.ofText t).path

/-- The tree of the source that a path's text names. -/
def extract (parser : SourceParser) (fs : FileSystem) (t : Text) :
    Except DumpFailure SyntaxTree :=
  SyntaxTree.ofRead parser t (fs.sourceAt t)

/-- The text of the tree of a source. -/
def dump (parser : SourceParser) (fs : FileSystem) (t : Text) : Except DumpFailure Text :=
  dumpRead parser t (fs.sourceAt t)

end FileSystem

end ScriptTree
