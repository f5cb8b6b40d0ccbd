import ScriptTree.Scalar
import ScriptTree.Script.Cursor

namespace ScriptTree

/-- The kinds of lexemes, with what a literal denotes. -/
inductive LexemeKind where
  | endOfInput
  | identifier
  | keyword
  | punctuator
  | nullWord
  | boolean
  | number (value : Scalar)
  | string
  /-- A part of a template: its text with escapes resolved, and whether it is the first and the
  last part. -/
  | template (cooked : Text) (isHead isTail : Bool)
  | regex (pattern flags : Text)
deriving DecidableEq

/-- A lexeme. Its line is the one on which it ends. -/
structure Lexeme where
  kind : LexemeKind
  /-- The name, keyword or punctuator; of a string its value, of a template part its source and of
  a number its value in base ten. -/
  text : Text
  start : Cursor
  stop : Nat
  line : Nat
  /-- A number or string with an octal escape or an octal form. -/
  isOctal : Bool
deriving DecidableEq

namespace Lexeme

/-- The source text of a lexeme. -/
def raw (l : Lexeme) : Text := l.start.rest.take (l.stop - l.start.place.index)

/-- A punctuator of the given text. -/
def isPunctuator (l : Lexeme) (t : Text) : Bool := l.kind = .punctuator && l.text = t

/-- A keyword of the given text. -/
def isKeyword (l : Lexeme) (t : Text) : Bool := l.kind = .keyword && l.text = t

/-- An identifier of the given text, which has a meaning only in some contexts. -/
def isWord (l : Lexeme) (t : Text) : Bool := l.kind = .identifier && l.text = t

/-- Anything that can stand as a name after a point. -/
def isName (l : Lexeme) : Bool :=
  l.kind = .identifier || l.kind = .keyword || l.kind = .boolean || l.kind = .nullWord

/-- A number literal. -/
def isNumber (l : Lexeme) : Bool :=
  match l.kind with
  | .number _ => true
  | _ => false

/-- A template part that starts a template. -/
def isTemplateHead (l : Lexeme) : Bool :=
  match l.kind with
  | .template _ isHead _ => isHead
  | _ => false

/-- A template part. -/
def isTemplate (l : Lexeme) : Bool :=
  match l.kind with
  | .template .. => true
  | _ => false

/-- A lexeme with a value to speak of: not the end, not an empty string and not the number
zero. -/
def hasValue (l : Lexeme) : Bool := !l.text.isEmpty && !(l.isNumber && l.text = "0")

/-- Anything that can start the key of a property. -/
def startsKey (l : Lexeme) : Bool :=
  l.isName || l.kind = .string || l.isNumber || l.isPunctuator "["

end Lexeme

namespace Word

/-- The reserved words. -/
def keywords : List Text :=
  List.map Text.ofString
    ["if", "in", "do", "var", "for", "new", "try", "let", "this", "else", "case", "void", "with",
     "enum", "while", "break", "catch", "throw", "const", "yield", "class", "super", "return",
     "typeof", "delete", "switch", "export", "import", "default", "finally", "extends",
     "function", "continue", "debugger", "instanceof"]

/-- Words reserved for later versions of the language. -/
def futureReserved : List Text := ["enum", "export", "import", "super"]

/-- Words that strict mode reserves. -/
def strictReserved : List Text :=
  ["implements", "interface", "package", "private", "protected", "public", "static", "yield",
   "let"]

/-- Names that strict mode does not let a script bind or assign. -/
def restricted : List Text := ["eval", "arguments"]

/-- Whether strict mode reserves a word. -/
def isStrictReserved (t : Text) : Bool := strictReserved.contains t

/-- Whether strict mode restricts a name. -/
def isRestricted (t : Text) : Bool := restricted.contains t

/-- The kind of lexeme a word is. -/
def kind (t : Text) : LexemeKind :=
  if keywords.contains t then .keyword
  else if t = "null" then .nullWord
  else if t = "true" ∨ t = "false" then .boolean
  else .identifier

end Word

end ScriptTree
