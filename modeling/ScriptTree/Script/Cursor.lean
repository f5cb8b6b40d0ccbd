import ScriptTree.Script.Problem

namespace ScriptTree

/-- The place of a code point: its index, its line and the index of the first code point of the
line. -/
structure Place where
  index : Nat
  line : Nat
  lineStart : Nat
deriving DecidableEq

/-- A place and what follows it. -/
structure Cursor where
  place : Place
  rest : Text
deriving DecidableEq

namespace CodePoint

/-- A code point that ends a line. -/
def isLineEnd (c : CodePoint) : Bool :=
  c.val = 0xA || c.val = 0xD || c.val = 0x2028 || c.val = 0x2029

/-- A blank of a script that does not end a line. -/
def isScriptBlank (c : CodePoint) : Bool :=
  c.val = 0x20 || c.val = 0x9 || c.val = 0xB || c.val = 0xC || c.val = 0xA0 ||
    (0x1680 ≤ c.val &&
      (c.val = 0x1680 || c.val = 0x180E || (0x2000 ≤ c.val && c.val ≤ 0x200A) ||
        c.val = 0x202F || c.val = 0x205F || c.val = 0x3000 || c.val = 0xFEFF))

end CodePoint

namespace Place

/-- The place after one more code point of the same line. -/
def next (p : Place) : Place := { p with index := p.index + 1 }

/-- The place after a number of code points of the same line. -/
def skip (p : Place) (n : Nat) : Place := { p with index := p.index + n }

/-- The place after a code point that ends the line. -/
def newLine (p : Place) : Place :=
  { index := p.index + 1, line := p.line + 1, lineStart := p.index + 1 }

/-- The place after a line feed that belongs to the carriage return before it. -/
def sameEnd (p : Place) : Place := { p with index := p.index + 1, lineStart := p.index + 1 }

/-- A problem at a place. -/
def fault (p : Place) (problem : Problem) : SyntaxFault :=
  { problem, line := p.line, column := (p.index : Int) - p.lineStart + 1, index := p.index }

end Place

namespace Cursor

/-- The next code point; the code point zero stands for the end. -/
def peek (c : Cursor) : CodePoint := c.rest.headD default

/-- Past a number of code points of the same line. The place moves on beyond the end. -/
def skip (c : Cursor) (n : Nat) : Cursor := ⟨c.place.skip n, c.rest.drop n⟩

/-- The code points from here on that satisfy a test. -/
def run (c : Cursor) (test : CodePoint → Bool) : Text := c.rest.takeWhile test

/-- A problem at the cursor. -/
def fault (c : Cursor) (problem : Problem) : SyntaxFault := c.place.fault problem

end Cursor

/-- What lies between tokens: blanks, or the inside of a comment. -/
inductive Trivia where
  /-- Between comments; a line has just begun, or a carriage return has just been read. -/
  | between (lineBegan afterReturn : Bool)
  /-- Inside a comment that ends with the line, and whether a line counts as begun after it. -/
  | line (lineBegan : Bool)
  /-- At the star of `/*`. -/
  | blockStart (lineBegan : Bool)
  /-- Inside a block comment, after a given code point. -/
  | block (lineBegan : Bool) (previous : CodePoint)

namespace Trivia

/-- A text starts with a string. -/
def starts (s : String) (t : Text) : Bool := List.isPrefixOf (Text.ofString s) t

/-- Past blanks and comments. In scripts `<!--`, and `-->` where nothing but blanks and comments
stands before it on its line, start comments that end with the line. Line breaks inside a block
comment and at the end of one that `<!--` starts begin no line in this sense. -/
def skip (isModule : Bool) : Trivia → Place → Text → Except SyntaxFault Cursor
  | blockStart _, p, [] => .error (p.fault .illegal)
  | block .., p, [] => .error (p.fault .illegal)
  | _, p, [] => .ok ⟨p, []⟩
  | blockStart lineBegan, p, _ :: rest => skip isModule (block lineBegan default) p.next rest
  | block lineBegan previous, p, c :: rest =>
    if previous = '*' ∧ c = '/' then skip isModule (between lineBegan false) p.next rest
    else if previous = '\r' ∧ c = '\n' then skip isModule (block lineBegan c) p.sameEnd rest
    else if c.isLineEnd then skip isModule (block lineBegan c) p.newLine rest
    else skip isModule (block lineBegan c) p.next rest
  | line lineBegan, p, c :: rest =>
    if c.isLineEnd then skip isModule (between lineBegan (c = '\r')) p.newLine rest
    else skip isModule (line lineBegan) p.next rest
  | between lineBegan afterReturn, p, c :: rest =>
    if c.isScriptBlank then skip isModule (between lineBegan false) p.next rest
    else if afterReturn ∧ c = '\n' then skip isModule (between lineBegan false) p.sameEnd rest
    else if c.isLineEnd then skip isModule (between true (c = '\r')) p.newLine rest
    else if c = '/' ∧ starts "/" rest then skip isModule (line true) p.next rest
    else if c = '/' ∧ starts "*" rest then skip isModule (blockStart lineBegan) p.next rest
    else if lineBegan ∧ c = '-' ∧ starts "->" rest then skip isModule (line true) p.next rest
    else if c = '<' ∧ ¬isModule ∧ starts "!--" rest then skip isModule (line lineBegan) p.next rest
    else .ok ⟨p, c :: rest⟩

end Trivia

/-- The cursor past the blanks and comments that follow it. -/
def Cursor.skipTrivia (isModule : Bool) (c : Cursor) : Except SyntaxFault Cursor :=
  Trivia.skip isModule (.between (c.place.index = 0) false) c.place c.rest

end ScriptTree
