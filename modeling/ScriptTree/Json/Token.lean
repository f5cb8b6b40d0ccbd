import ScriptTree.Number.Notation
import ScriptTree.Scalar
import ScriptTree.Text.Utf8

namespace ScriptTree

/-- A token of a document. -/
inductive Token where
  | beginObject
  | endObject
  | beginArray
  | endArray
  | comma
  | colon
  | scalar (value : Scalar)
deriving DecidableEq

namespace Token

/-- How a code point stands between quotes. -/
def escape (c : CodePoint) : Text :=
  if c = '"' then "\\\""
  else if c = '\\' then "\\\\"
  else if c = '\n' then "\\n"
  else if c = '\r' then "\\r"
  else if c = '\t' then "\\t"
  else if c.val = 8 then "\\b"
  else if c.val = 12 then "\\f"
  else if c.val < 32 then Text.unitEscape c
  else [c]

/-- A string between quotes. -/
def quote (t : Text) : Text := "\"" ++ t.flatMap escape ++ "\""

/-- A scalar as it stands in a document. -/
def scalarText : Scalar → Text
  | .null => "null"
  | .bool true => "true"
  | .bool false => "false"
  | .int value => Text.ofInt value
  | .float value => Double.write Double.documentFormat value
  | .str value => quote value

/-- A token as it is written. -/
def text : Token → Text
  | beginObject => "\x7b"
  | endObject => "\x7d"
  | beginArray => "["
  | endArray => "]"
  | comma => ","
  | colon => ":"
  | scalar value => scalarText value

/-- What a letter after a backslash stands for. -/
def letterEscape (c : CodePoint) : Option CodePoint :=
  if c = '"' ∨ c = '\\' ∨ c = '/' then some c
  else if c = 'n' then some (CodePoint.ofChar '\n')
  else if c = 'r' then some (CodePoint.ofChar '\r')
  else if c = 't' then some (CodePoint.ofChar '\t')
  else if c = 'b' then some (CodePoint.ofNat 8)
  else if c = 'f' then some (CodePoint.ofNat 12)
  else none

/-- Where a reader stands inside a string. -/
inductive Within where
  | plain
  /-- After a backslash. -/
  | escape
  /-- After `\u` and some of its four digits. -/
  | unit (digits value : Nat)

/-- The content of a string up to its closing quote, and what follows the quote. -/
def readQuoted : Within → Text → Option (Text × Text)
  | _, [] => none
  | .plain, c :: rest =>
    if c = '"' then some ([], rest)
    else if c = '\\' then readQuoted .escape rest
    else if c.val < 32 then none
    else (readQuoted .plain rest).map fun r => (c :: r.1, r.2)
  | .escape, c :: rest =>
    if c = 'u' then readQuoted (.unit 0 0) rest
    else (letterEscape c).bind fun e => (readQuoted .plain rest).map fun r => (e :: r.1, r.2)
  | .unit digits value, c :: rest =>
    c.hexValue?.bind fun d =>
      if digits = 3 then
        (readQuoted .plain rest).map fun r => (CodePoint.ofNat (value * 16 + d) :: r.1, r.2)
      else readQuoted (.unit (digits + 1) (value * 16 + d)) rest

/-- The code points of numbers. -/
def isNumeric (c : CodePoint) : Bool :=
  c.isDigit || c = '-' || c = '+' || c = '.' || c = 'e' || c = 'E'

/-- Digits that are one zero or start with another digit. -/
def isWhole (t : Text) : Bool :=
  !t.isEmpty && t.all CodePoint.isDigit && (t.length = 1 || t.head? ≠ some (CodePoint.ofChar '0'))

/-- The number a text denotes: an integer without fraction and exponent, else the nearest
double. -/
def readNumber (t : Text) : Option Scalar :=
  let (negative, body) := match t with
    | c :: rest => if c = '-' then (true, rest) else (false, t)
    | [] => (false, t)
  let whole := body.takeWhile CodePoint.isDigit
  let tail := body.dropWhile CodePoint.isDigit
  if !isWhole whole then none
  else if tail.isEmpty then
    let n : Int := Text.decimalValue whole
    some (.int (if negative then -n else n))
  else
    let fraction := match tail with
      | c :: rest => if c = '.' then rest.takeWhile CodePoint.isDigit else [c]
      | [] => []
    if fraction.isEmpty then none
    else (Double.readUnsigned negative body).map .float

/-- A word that names a scalar. -/
def readWord (t : Text) : Option Scalar :=
  if t = "null" then some .null
  else if t = "true" then some (.bool true)
  else if t = "false" then some (.bool false)
  else none

/-- The blanks between tokens. -/
def isBlank (c : CodePoint) : Bool := c = ' ' || c = '\n' || c = '\r' || c = '\t'

/-- The first token of a text that starts with no blank, and what follows it. -/
def next? : Text → Option (Token × Text)
  | [] => none
  | c :: rest =>
    if c = '\x7b' then some (beginObject, rest)
    else if c = '\x7d' then some (endObject, rest)
    else if c = '[' then some (beginArray, rest)
    else if c = ']' then some (endArray, rest)
    else if c = ',' then some (comma, rest)
    else if c = ':' then some (colon, rest)
    else if c = '"' then do
      let (content, rest) ← readQuoted .plain rest
      some (scalar (.str (Text.joinPairs content)), rest)
    else if isNumeric c then do
      let value ← readNumber ((c :: rest).takeWhile isNumeric)
      some (scalar value, (c :: rest).dropWhile isNumeric)
    else do
      let value ← readWord ((c :: rest).takeWhile CodePoint.isLetter)
      some (scalar value, (c :: rest).dropWhile CodePoint.isLetter)

/-- The tokens of a text; none if some part of it is no token. The fuel bounds their number. -/
def readAll : Nat → Text → Option (List Token)
  | 0, _ => none
  | fuel + 1, t =>
    match t.dropWhile isBlank with
    | [] => some []
    | c :: rest => do
      let (token, rest) ← next? (c :: rest)
      let tokens ← readAll fuel rest
      some (token :: tokens)

end Token

/-- The tokens of a text; none if some part of it is no token. -/
def Text.tokens? (t : Text) : Option (List Token) := Token.readAll (t.length + 1) t

end ScriptTree
