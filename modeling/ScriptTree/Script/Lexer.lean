import ScriptTree.Script.Lexer.Name
import ScriptTree.Script.Lexer.Number
import ScriptTree.Script.Lexer.Quoted

namespace ScriptTree

/-- An open brace. -/
inductive Brace where
  | block
  /-- The brace of a substitution in a template. -/
  | substitution
deriving DecidableEq

/-- Where a reader of lexemes stands: the cursor and the open braces, the latest first. -/
structure Lexer where
  cursor : Cursor
  braces : List Brace
deriving DecidableEq

namespace Punctuator

/-- The punctuators whose first code point does not settle them, longer ones first. -/
def compound : List Text :=
  List.map Text.ofString
    [">>>=", "===", "!==", ">>>", "<<=", ">>=", "**=", "&&", "||", "==", "!=", "+=", "-=", "*=",
     "/=", "++", "--", "<<", ">>", "&=", "|=", "^=", "%=", "<=", ">=", "=>", "**", "<", ">", "=",
     "!", "+", "-", "*", "%", "&", "|", "^", "/"]

/-- The code points that are punctuators by themselves. -/
def single : Text := "(){};,[]:?~"

/-- The punctuator that a text starts with. -/
def find? (t : Text) : Option Text :=
  match t with
  | [] => none
  | c :: rest =>
    if single.contains c then some [c]
    else if c = '.' then
      if List.isPrefixOf (Text.ofString "..") rest then some "..." else some [c]
    else compound.find? (List.isPrefixOf · t)

end Punctuator

namespace Lexer

/-- The punctuator at the cursor. -/
def readPunctuator (l : Lexer) : Except SyntaxFault (Lexeme × Lexer) :=
  let start := l.cursor
  match Punctuator.find? start.rest with
  | none => .error (start.fault .illegal)
  | some t =>
    let stop := start.skip t.length
    let braces :=
      if t = "\x7b" then Brace.block :: l.braces
      else if t = "\x7d" then l.braces.drop 1
      else l.braces
    .ok ({ kind := .punctuator, text := t, start, stop := stop.place.index,
           line := stop.place.line, isOctal := false }, ⟨stop, braces⟩)

/-- The part of a template at the cursor. A part that is not the last one opens a substitution,
and a part that is not the first one closes one. -/
def readTemplate (l : Lexer) : Except SyntaxFault (Lexeme × Lexer) := do
  let (part, stop) ← Quoted.readTemplate l.cursor
  match part.kind with
  | .template _ isHead isTail =>
    let opened := if isTail then l.braces else Brace.substitution :: l.braces
    .ok (part, ⟨stop, if isHead then opened else opened.drop 1⟩)
  | _ => .ok (part, ⟨stop, l.braces⟩)

/-- The end of the script. -/
def endOfInput (c : Cursor) : Lexeme :=
  { kind := .endOfInput, text := [], start := c, stop := c.place.index, line := c.place.line,
    isOctal := false }

/-- The lexeme at the cursor, which stands behind all blanks and comments. -/
def read (l : Lexer) : Except SyntaxFault (Lexeme × Lexer) :=
  let resume := fun (r : Lexeme × Cursor) => (r.1, (⟨r.2, l.braces⟩ : Lexer))
  match l.cursor.rest with
  | [] => .ok (endOfInput l.cursor, l)
  | c :: rest =>
    if c.isIdentifierStart then (Name.read l.cursor).map resume
    else if c = '\'' ∨ c = '"' then (Quoted.readString l.cursor).map resume
    else if c.isDigit ∨ (c = '.' ∧ (rest.headD default).isDigit) then
      (NumberLiteral.read l.cursor).map resume
    else if c = '`' ∨ (c = '\x7d' ∧ l.braces.head? = some .substitution) then readTemplate l
    else readPunctuator l

/-- The next lexeme behind blanks and comments. -/
def next (isModule : Bool) (l : Lexer) : Except SyntaxFault (Lexeme × Lexer) := do
  read { l with cursor := ← l.cursor.skipTrivia isModule }

end Lexer

end ScriptTree
