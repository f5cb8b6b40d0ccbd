import ScriptTree.Number.Shortest

namespace ScriptTree

namespace Double

/-- The decisions of a written form. A decimal point from `leastPoint` to `greatestPoint` is
written positionally. -/
structure Format where
  leastPoint : Int
  greatestPoint : Int
  /-- The least number of digits of a written exponent. -/
  exponentDigits : Nat
  /-- What follows a whole number in positional form. -/
  wholeTail : Text
  nanText : Text
  infinityText : Text

/-- Positional from 10^-4 up to 10^16, at least one digit after the point, an exponent of at least
two digits. -/
def plainFormat : Format where
  leastPoint := -3
  greatestPoint := 16
  exponentDigits := 2
  wholeTail := ".0"
  nanText := "nan"
  infinityText := "inf"

/-- The format of numbers in a document, with its spellings of the numbers that are not finite. -/
def documentFormat : Format :=
  { plainFormat with nanText := "NaN", infinityText := "Infinity" }

def digitText (digits : List Nat) : Text := digits.map CodePoint.ofDigit

/-- Zeros as text. -/
def zeros (n : Nat) : Text := List.replicate n (CodePoint.ofChar '0')

/-- The exponent with its sign, padded to the width of the format. -/
def exponentText (format : Format) (e : Int) : Text :=
  let digits := Text.ofNat e.natAbs
  (if e < 0 then "e-" else "e+" : Text) ++ zeros (format.exponentDigits - digits.length) ++ digits

/-- A decimal in the format. -/
def decimalText (format : Format) (d : Decimal) : Text :=
  let point : Text := "."
  if format.leastPoint ≤ d.point ∧ d.point ≤ format.greatestPoint then
    if d.point ≤ 0 then "0" ++ point ++ zeros (-d.point).toNat ++ digitText d.digits
    else
      let whole := d.point.toNat
      if d.digits.length ≤ whole then
        digitText d.digits ++ zeros (whole - d.digits.length) ++ format.wholeTail
      else digitText (d.digits.take whole) ++ point ++ digitText (d.digits.drop whole)
  else
    let tail := digitText (d.digits.drop 1)
    digitText (d.digits.take 1) ++ (if tail.isEmpty then [] else point ++ tail)
      ++ exponentText format (d.point - 1)

/-- The sign that stands before a negative number. -/
def signText (negative : Bool) : Text := if negative then "-" else []

/-- A double in the format. -/
def write (format : Format) : Double → Text
  | .nan => format.nanText
  | .infinite negative => signText negative ++ format.infinityText
  | .finite negative significand shift _ =>
    signText negative ++ decimalText format
      (if significand = 0 then { digits := [0], point := 1 } else shortest significand shift)

/-- The text before the first code point that satisfies the test, and what follows it. -/
def splitAtFirst (test : CodePoint → Bool) (t : Text) : Text × Option Text :=
  match t.dropWhile (fun c => !test c) with
  | [] => (t, none)
  | _ :: rest => (t.takeWhile (fun c => !test c), some rest)

/-- An optional sign and what follows it. -/
def readSign : Text → Bool × Text
  | [] => (false, [])
  | c :: rest =>
    if c = '-' then (true, rest) else if c = '+' then (false, rest) else (false, c :: rest)

/-- An exponent: an optional sign and digits. -/
def readExponent (t : Text) : Option Int :=
  let (negative, digits) := readSign t
  if digits.isEmpty || !digits.all CodePoint.isDigit then none
  else
    let n : Int := Text.decimalValue digits
    some (if negative then -n else n)

/-- The number written as a decimal literal: digits with an optional point and an optional
exponent, at least one digit outside the exponent. -/
def readUnsigned (negative : Bool) (t : Text) : Option Double := do
  let (body, exponentPart) := splitAtFirst (fun c => c = 'e' || c = 'E') t
  let exponent ← match exponentPart with
    | none => some 0
    | some e => readExponent e
  let (whole, fraction) := splitAtFirst (· = '.') body
  let fraction := fraction.getD []
  let digits := whole ++ fraction
  if digits.isEmpty || !digits.all CodePoint.isDigit then none
  else some (ofDecimal negative (Text.decimalValue digits) (exponent - fraction.length))

/-- A decimal literal with an optional sign. -/
def read? (t : Text) : Option Double :=
  let (negative, rest) := readSign t
  readUnsigned negative rest

end Double

end ScriptTree
