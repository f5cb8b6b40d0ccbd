import ScriptTree.Basic

namespace ScriptTree

/-- Why an integer is not read or shown in base ten, where the work grows faster than the number of
digits. Bases that are powers of two have no such limit. -/
inductive DigitOverflow where
  /-- It has too many digits to be shown. -/
  | shown
  /-- The digits it is read from are too many. -/
  | read (count : Nat)
deriving DecidableEq

namespace DigitOverflow

/-- The most digits that are read or shown. -/
def limit : Nat := 4300

/-- The wording of an overflow. -/
def message (e : DigitOverflow) : Text :=
  let count := match e with
    | shown => []
    | read n => ": value has " ++ Text.ofNat n ++ " digits"
  "Exceeds the limit (" ++ Text.ofNat limit ++ " digits) for integer string conversion" ++ count
    ++ "; use sys.set_int_max_str_digits() to increase the limit"

/-- Whether an integer has few enough digits to be shown. -/
def isShowable (i : Int) : Bool := i.natAbs < Nat.pow 10 limit

end DigitOverflow

namespace CodePoint

/-- The zeros of all scripts by Unicode 14: every script has its ten digits in a row. -/
def zeros : List Nat :=
  [0x30, 0x660, 0x6F0, 0x7C0, 0x966, 0x9E6, 0xA66, 0xAE6, 0xB66, 0xBE6, 0xC66, 0xCE6, 0xD66,
   0xDE6, 0xE50, 0xED0, 0xF20, 0x1040, 0x1090, 0x17E0, 0x1810, 0x1946, 0x19D0, 0x1A80, 0x1A90,
   0x1B50, 0x1BB0, 0x1C40, 0x1C50, 0xA620, 0xA8D0, 0xA900, 0xA9D0, 0xA9F0, 0xAA50, 0xABF0, 0xFF10,
   0x104A0, 0x10D30, 0x11066, 0x110F0, 0x11136, 0x111D0, 0x112F0, 0x11450, 0x114D0, 0x11650,
   0x116C0, 0x11730, 0x118E0, 0x11950, 0x11C50, 0x11D50, 0x11DA0, 0x16A60, 0x16AC0, 0x16B50,
   0x1D7CE, 0x1D7D8, 0x1D7E2, 0x1D7EC, 0x1D7F6, 0x1E140, 0x1E2F0, 0x1E950, 0x1FBF0]

/-- The value of a decimal digit of any script. -/
def decimalValue? (c : CodePoint) : Option Nat :=
  (zeros.find? fun z => z ≤ c.val && c.val < z + 10).map fun z => c.val - z

end CodePoint

namespace Text

/-- The values of the decimal digits that a text starts with. -/
def leadingDigits : Text → List Nat
  | [] => []
  | c :: rest =>
    match c.decimalValue? with
    | some d => d :: leadingDigits rest
    | none => []

end Text

namespace Integer

/-- Why a text is no integer. -/
inductive Flaw where
  | malformed
  | digits (overflow : DigitOverflow)
deriving DecidableEq

/-- A code point of a number in ASCII: a digit of any script as that digit, and a blank beyond ASCII
as a space. -/
def plainForm (c : CodePoint) : CodePoint :=
  if c.val < 0x80 then c
  else if c.isBlank then CodePoint.ofChar ' '
  else
    match c.decimalValue? with
    | some d => CodePoint.ofDigit d
    | none => c

/-- Blanks that may stand around a number. -/
def isMargin (c : CodePoint) : Bool := c = ' ' || (9 ≤ c.val && c.val ≤ 13)

/-- A number in ASCII, without the blanks around it. -/
def trimmed (t : Text) : Text :=
  ((((t.map plainForm).dropWhile isMargin).reverse).dropWhile isMargin).reverse

/-- Whether a sign makes a number negative, and what follows the sign. -/
def splitSign : Text → Bool × Text
  | [] => (false, [])
  | c :: rest =>
    if c = '-' then (true, rest) else if c = '+' then (false, rest) else (false, c :: rest)

/-- The mark that may stand before the digits in a base, with an underscore after it. -/
def baseMark (base : Nat) (t : Text) : Nat :=
  let mark := (t.take 2).map CodePoint.lower
  if (base = 2 && mark = "0b") || (base = 8 && mark = "0o") || (base = 16 && mark = "0x") then
    if (t.drop 2).head? = some (CodePoint.ofChar '_') then 3 else 2
  else 0

/-- The value of a digit in a base. -/
def digitIn? (base : Nat) (c : CodePoint) : Option Nat := c.hexValue?.filter (· < base)

/-- Whether underscores stand only between digits, one at a time; `wasDigit` if one stands right
before. -/
def isSpaced (wasDigit : Bool) : Text → Bool
  | [] => wasDigit
  | c :: rest => if c = '_' then wasDigit && isSpaced false rest else isSpaced true rest

/-- The integer that a text denotes in a base. -/
def read (base : Nat) (t : Text) : Except Flaw Int :=
  let (isNegative, rest) := splitSign (trimmed t)
  let written := rest.drop (baseMark base rest)
  let run := written.takeWhile fun c => (digitIn? base c).isSome || c = '_'
  let digits := run.filterMap (digitIn? base)
  if !isSpaced false run then .error .malformed
  else if base = 10 && DigitOverflow.limit < digits.length then
    .error (.digits (.read digits.length))
  else if run.length < written.length then .error .malformed
  else
    let n : Int := Text.ofDigitValues base digits
    .ok (if isNegative then -n else n)

end Integer

end ScriptTree
