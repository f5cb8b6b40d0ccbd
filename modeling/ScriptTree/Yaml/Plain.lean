import ScriptTree.Yaml.Node

namespace ScriptTree

namespace Yaml

namespace Plain

/-- A pattern: what a text may start with, each way with what follows it. -/
abbrev Pattern := Text → List Text

/-- Whether a pattern matches a whole text. -/
def Pattern.accepts (p : Pattern) (t : Text) : Bool := (p t).any List.isEmpty

/-- One code point of a class. -/
def one (test : CodePoint → Bool) : Pattern
  | [] => []
  | c :: rest => if test c then [rest] else []

/-- The code points of a string. -/
def oneOf (s : String) : Pattern := one fun c => (Text.ofString s).contains c

/-- A given text. -/
def literal (s : String) : Pattern := fun t =>
  if List.isPrefixOf (Text.ofString s) t then [t.drop s.length] else []

/-- One pattern after another. -/
def andThen (p q : Pattern) : Pattern := fun t => (p t).flatMap q

/-- Patterns one after the other. -/
def inOrder (ps : List Pattern) : Pattern := ps.foldr andThen fun t => [t]

/-- Either of some patterns. -/
def either (ps : List Pattern) : Pattern := fun t => ps.flatMap fun p => p t

/-- A pattern or nothing. -/
def perhaps (p : Pattern) : Pattern := fun t => t :: p t

/-- Any number of code points of a class. -/
def many (test : CodePoint → Bool) : Pattern
  | [] => [[]]
  | c :: rest => (c :: rest) :: (if test c then many test rest else [])

/-- At least one code point of a class. -/
def some (test : CodePoint → Bool) : Pattern := andThen (one test) (many test)

/-- A decimal digit. -/
def digit : Pattern := one CodePoint.isDigit

/-- A decimal digit or an underscore. -/
def isDigitOrLow (c : CodePoint) : Bool := c.isDigit || c = '_'

/-- A sign or nothing. -/
def sign : Pattern := perhaps (oneOf "+-")

/-- Repetitions of a pattern, at most a number of them. -/
def repeated (p : Pattern) : Nat → Pattern
  | 0, t => [t]
  | n + 1, t => t :: (p t).flatMap (repeated p n)

/-- Groups of digits after colons, each below sixty; at least one. -/
def sixties : Pattern := fun t =>
  let group := inOrder [literal ":", perhaps (oneOf "012345"), digit]
  andThen group (repeated group t.length) t

/-- A truth value. -/
def isBoolean (t : Text) : Bool :=
  (List.map Text.ofString
    ["yes", "Yes", "YES", "no", "No", "NO", "true", "True", "TRUE", "false", "False", "FALSE",
     "on", "On", "ON", "off", "Off", "OFF"]).contains t

/-- No value. -/
def isNull (t : Text) : Bool :=
  (List.map Text.ofString ["", "~", "null", "Null", "NULL"]).contains t

/-- A number with a point, in any of its forms. -/
def isFloat : Text → Bool :=
  let exponent := perhaps (inOrder [oneOf "eE", oneOf "+-", some CodePoint.isDigit])
  Pattern.accepts (either [
    inOrder [sign, digit, many isDigitOrLow, literal ".", many isDigitOrLow, exponent],
    inOrder [literal ".", digit, many isDigitOrLow, exponent],
    inOrder [sign, digit, many isDigitOrLow, sixties, literal ".", many isDigitOrLow],
    inOrder [sign, either [literal ".inf", literal ".Inf", literal ".INF"]],
    either [literal ".nan", literal ".NaN", literal ".NAN"]])

/-- A decimal digit that is not zero. -/
def nonZeroDigit : Pattern := one fun c => c.isDigit && c ≠ '0'

/-- An integer, in any of its forms. -/
def isInteger : Text → Bool :=
  Pattern.accepts (andThen sign (either [
    inOrder [literal "0b", some fun c => c = '0' || c = '1' || c = '_'],
    inOrder [literal "0", some fun c => c.isOctalDigit || c = '_'],
    literal "0",
    inOrder [nonZeroDigit, many isDigitOrLow],
    inOrder [literal "0x", some fun c => c.isHexDigit || c = '_'],
    inOrder [nonZeroDigit, many isDigitOrLow, sixties]]))

/-- A date in its full form, or a date and a time. -/
def isTimestamp : Text → Bool :=
  let year := inOrder [digit, digit, digit, digit, literal "-"]
  let pair := inOrder [digit, perhaps digit]
  let blanks := fun c : CodePoint => c = ' ' || c = '\t'
  let zone := either [literal "Z",
    inOrder [oneOf "+-", pair, perhaps (inOrder [literal ":", digit, digit])]]
  Pattern.accepts (either [
    inOrder [year, digit, digit, literal "-", digit, digit],
    inOrder [year, pair, literal "-", pair, either [oneOf "Tt", some blanks], pair,
      literal ":", digit, digit, literal ":", digit, digit,
      perhaps (inOrder [literal ".", many CodePoint.isDigit]),
      perhaps (inOrder [many blanks, zone])]])

/-- A text without the line feed at its end, unless it is all there is. -/
def withoutLineFeed (t : Text) : Text :=
  if 1 < t.length && t.getLast? = Option.some (CodePoint.ofChar '\n') then t.dropLast else t

/-- The tag of a scalar that says nothing of it. A line feed at the end does not count. -/
def tag (t : Text) : Text :=
  let t := withoutLineFeed t
  standardTag
    (if isBoolean t then "bool"
     else if isFloat t then "float"
     else if isInteger t then "int"
     else if t = "<<" then "merge"
     else if isNull t then "null"
     else if isTimestamp t then "timestamp"
     else if t = "=" then "value"
     else "str")

end Plain

end Yaml

end ScriptTree
