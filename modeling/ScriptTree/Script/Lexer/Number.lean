import ScriptTree.Number.Notation
import ScriptTree.Script.Lexeme
import ScriptTree.Text.Letter

namespace ScriptTree

namespace NumberLiteral

def isBinaryDigit (c : CodePoint) : Bool := c = '0' || c = '1'

/-- The value of a double in a script: an integer if it is whole. -/
def scalarOf (x : Double) : Scalar := if x.isInteger then .int x.truncate else .float x

/-- The text of a number as diagnostics show it. -/
def display : Scalar → Text
  | .int i => Text.ofInt i
  | .float x => Double.write Double.plainFormat x
  | _ => []

/-- The lexeme of a number that was read from `start` to `stop`. -/
def lexeme (start stop : Cursor) (value : Scalar) (isOctal : Bool) : Lexeme × Cursor :=
  ({ kind := .number value, text := display value, start, stop := stop.place.index,
     line := stop.place.line, isOctal }, stop)

/-- A number in the given base, whose digits stand at `digits`. What follows must not look like
more of a number or a name. -/
def readInBase (base : Nat) (isDigit : CodePoint → Bool) (isOctal strict : Bool)
    (start digits : Cursor) : Except SyntaxFault (Lexeme × Cursor) :=
  let run := digits.run isDigit
  let stop := digits.skip run.length
  let value : Int := Text.ofDigitValues base (run.map fun c => c.hexValue?.getD 0)
  if run.isEmpty then .error (stop.fault .illegal)
  else if stop.peek.isIdentifierStart || (strict && stop.peek.isDigit) then
    .error (stop.fault .illegal)
  else .ok (lexeme start stop (.int value) isOctal)

/-- Whether the digits after a leading zero are octal: no eight or nine comes before the first
code point that is no octal digit. -/
def isImplicitOctal (rest : Text) : Bool :=
  match rest.dropWhile CodePoint.isOctalDigit with
  | [] => true
  | c :: _ => c ≠ '8' ∧ c ≠ '9'

/-- The exponent at a cursor: its text and what follows it; nothing if none starts here. -/
def readExponent (c : Cursor) : Except SyntaxFault (Text × Cursor) :=
  if c.peek = 'e' ∨ c.peek = 'E' then
    let mark := c.skip 1
    let signed := if mark.peek = '+' ∨ mark.peek = '-' then mark.skip 1 else mark
    let digits := signed.run CodePoint.isDigit
    if digits.isEmpty then .error (signed.fault .illegal)
    else
      let stop := signed.skip digits.length
      .ok (c.rest.take (stop.place.index - c.place.index), stop)
  else .ok ([], c)

/-- A decimal number: digits, a fraction and an exponent, each of which may be missing. -/
def readDecimal (start : Cursor) : Except SyntaxFault (Lexeme × Cursor) := do
  let whole := start.run CodePoint.isDigit
  let afterWhole := start.skip whole.length
  let (fraction, afterFraction) :=
    if afterWhole.peek = '.' then
      let digits := (afterWhole.skip 1).run CodePoint.isDigit
      (CodePoint.ofChar '.' :: digits, afterWhole.skip (digits.length + 1))
    else ([], afterWhole)
  let (exponent, stop) ← readExponent afterFraction
  if stop.peek.isIdentifierStart then .error (stop.fault .illegal)
  else
    let value := (Double.readUnsigned false (whole ++ fraction ++ exponent)).getD default
    .ok (lexeme start stop (scalarOf value) false)

/-- The number at a cursor that stands at a digit, or at a point before a digit. -/
def read (start : Cursor) : Except SyntaxFault (Lexeme × Cursor) :=
  if start.peek = '0' then
    let second := start.skip 1
    let c := second.peek
    if c = 'x' ∨ c = 'X' then
      readInBase 16 CodePoint.isHexDigit false false start (second.skip 1)
    else if c = 'b' ∨ c = 'B' then
      readInBase 2 isBinaryDigit false true start (second.skip 1)
    else if c = 'o' ∨ c = 'O' then
      readInBase 8 CodePoint.isOctalDigit false true start (second.skip 1)
    else if c.isOctalDigit ∧ isImplicitOctal (second.rest.drop 1) then
      readInBase 8 CodePoint.isOctalDigit true true start second
    else readDecimal start
  else readDecimal start

end NumberLiteral

end ScriptTree
