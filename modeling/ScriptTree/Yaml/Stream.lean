import ScriptTree.Basic
import ScriptTree.Yaml.Fault

namespace ScriptTree

namespace Yaml

/-- A mark and what follows it. -/
structure Stream where
  mark : Mark
  rest : Text

/-- A code point that ends a line. -/
def isBreak (c : CodePoint) : Bool :=
  c = '\n' || c.val = 0x85 || c.val = 0x2028 || c.val = 0x2029

/-- The end of a line or of the document. -/
def isLineStop (c : CodePoint) : Bool := c.val = 0 || isBreak c

/-- A space, or the end of a line or of the document. -/
def isSpaceStop (c : CodePoint) : Bool := c = ' ' || isLineStop c

/-- A space or tab, or the end of a line or of the document. -/
def isBlankStop (c : CodePoint) : Bool := c = '\t' || isSpaceStop c

def isSpace (c : CodePoint) : Bool := c = ' '

def isSpaceOrTab (c : CodePoint) : Bool := c = ' ' || c = '\t'

/-- A code point of the names of anchors, handles and directives. -/
def isWordCharacter (c : CodePoint) : Bool := c.isDigit || c.isLetter || c = '-' || c = '_'

/-- The mark after a code point. A byte order mark takes no column. -/
def Mark.past (m : Mark) (c : CodePoint) : Mark :=
  if isBreak c then ⟨m.index + 1, m.line + 1, 0⟩
  else if c.val = 0xFEFF then ⟨m.index + 1, m.line, m.column⟩
  else ⟨m.index + 1, m.line, m.column + 1⟩

/-- The stream after a number of code points. -/
def Stream.skip : Nat → Stream → Stream
  | 0, s => s
  | _ + 1, ⟨mark, []⟩ => ⟨mark, []⟩
  | n + 1, ⟨mark, c :: rest⟩ => Stream.skip n ⟨mark.past c, rest⟩

/-- The code point after a number of others; zero beyond the end. -/
def Stream.peek (s : Stream) (n : Nat) : CodePoint := (s.rest.drop n).headD default

/-- A computation on a stream that may find a fault. -/
abbrev Scan := StateT Stream (Except Fault)

namespace Scan

/-- The mark of the next code point. -/
def mark : Scan Mark := return (← get).mark

/-- The code point after a number of others. -/
def peek (n : Nat) : Scan CodePoint := return (← get).peek n

/-- The next code point. -/
def next : Scan CodePoint := peek 0

/-- Skips code points. -/
def skip (n : Nat) : Scan PUnit := modify (Stream.skip n)

/-- Takes the code points that satisfy a test. -/
def takeWhile (test : CodePoint → Bool) : Scan Text := do
  let run := (← get).rest.takeWhile test
  skip run.length
  return run

/-- Skips the code points that satisfy a test. -/
def skipWhile (test : CodePoint → Bool) : Scan PUnit := discard (takeWhile test)

/-- Takes the end of a line, if it is here: separators of lines and paragraphs as they are, the
others as a line feed. -/
def lineBreak : Scan Text := do
  let c ← next
  if isBreak c then
    skip 1
    return if c.val = 0x2028 || c.val = 0x2029 then [c] else [CodePoint.ofChar '\n']
  else return []

/-- A problem here, found in a situation that started at a mark. -/
def fail {α : Type} (situation : Situation) (start : Mark) (problem : Problem) : Scan α := do
  throw (.at (some (situation, some start)) problem (← mark))

/-- Fails unless the next code point satisfies a test. -/
def require (situation : Situation) (start : Mark) (test : CodePoint → Bool) (what : Text) :
    Scan PUnit := do
  let c ← next
  if !test c then fail situation start (.expectedCharacter what c)

/-- Repeats a step until it gives a result. Every step but the last one takes a code point. -/
def loop {σ α : Type} (start : σ) (step : σ → Scan (σ ⊕ α)) : Scan α := do
  iterate (throw .tooDeep) step ((← get).rest.length + 2) start

/-- Whether a document separator is here. -/
def isAtSeparator : Scan Bool := do
  let s ← get
  let three := s.rest.take 3
  return (three = "---" || three = "...") && isBlankStop (s.peek 3)

/-- Skips a comment up to the end of the line. -/
def skipComment : Scan PUnit := do
  if (← next) = '#' then skipWhile fun c => !isLineStop c

/-- Skips spaces and a comment, after which the line must end. -/
def restOfLine (situation : Situation) (start : Mark) : Scan PUnit := do
  skipWhile isSpace
  skipComment
  require situation start isLineStop "a comment or a line break"
  discard lineBreak

end Scan

end Yaml

end ScriptTree
