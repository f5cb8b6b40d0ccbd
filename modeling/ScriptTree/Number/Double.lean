import ScriptTree.Basic

namespace ScriptTree

namespace Double

/-- The number of units in one. -/
def unitsPerOne : Nat := Nat.pow 2 1074

/-- A significand and the shift of it: all fifty-three bits are used unless the shift is zero. -/
def Canonical (significand shift : Nat) : Prop :=
  significand < Nat.pow 2 53 ∧ shift ≤ 2045 ∧ (significand < Nat.pow 2 52 → shift = 0)

instance (significand shift : Nat) : Decidable (Canonical significand shift) :=
  inferInstanceAs (Decidable (_ ∧ _ ∧ _))

end Double

/-- A binary64 number as an exact value: its magnitude is `significand * Nat.pow 2 shift` units of
2^-1074, the least positive number of the format. -/
inductive Double where
  | finite (negative : Bool) (significand shift : Nat)
      (canonical : Double.Canonical significand shift)
  | infinite (negative : Bool)
  | nan
deriving DecidableEq

namespace Double

/-- Zero of either sign. -/
def zero (negative : Bool) : Double := .finite negative 0 0 (by decide)

instance : Inhabited Double := ⟨zero false⟩

/-- A number from its parts; parts that are not canonical stand for a number out of range. -/
def ofParts (negative : Bool) (significand shift : Nat) : Double :=
  if h : Canonical significand shift then .finite negative significand shift h
  else .infinite negative

/-- The quotient rounded to the nearest natural number, a half to the even neighbour. -/
def roundQuotient (num den : Nat) : Nat :=
  let q := num / den
  let twice := 2 * (num % den)
  if twice < den then q
  else if den < twice then q + 1
  else if q % 2 = 0 then q else q + 1

/-- The double nearest to `num / den`, of two equally near ones that with the even significand. -/
def ofRatio (negative : Bool) (num den : Nat) : Double :=
  let units := num * unitsPerOne
  let whole := units / den
  let shift := if whole < Nat.pow 2 53 then 0 else whole.log2 - 52
  let significand := roundQuotient units (den * Nat.pow 2 shift)
  if significand = Nat.pow 2 53 then ofParts negative (Nat.pow 2 52) (shift + 1)
  else ofParts negative significand shift

/-- The double nearest to an integer. -/
def ofInt (i : Int) : Double := ofRatio (i < 0) i.natAbs 1

/-- The double nearest to `digits * 10 ^ exponent`. The number of digits bounds the power of ten
that can matter: no double lies beyond 10^309 and none but zero below 10^-324. -/
def ofDecimal (negative : Bool) (digits : Nat) (exponent : Int) : Double :=
  let size : Int := (Text.decimalDigits digits).length
  if digits = 0 ∨ size + exponent ≤ -324 then zero negative
  else if 310 ≤ size + exponent then .infinite negative
  else if 0 ≤ exponent then ofRatio negative (digits * Nat.pow 10 exponent.toNat) 1
  else ofRatio negative digits (Nat.pow 10 (-exponent).toNat)

/-- The magnitude of a finite number in units. -/
def units : Double → Nat
  | .finite _ significand shift _ => significand * Nat.pow 2 shift
  | _ => 0

/-- The sign bit. -/
def isNegative : Double → Bool
  | .finite negative _ _ _ => negative
  | .infinite negative => negative
  | .nan => false

/-- A finite number. -/
def isFinite : Double → Bool
  | .finite .. => true
  | _ => false

/-- A finite number without a fractional part. -/
def isInteger (x : Double) : Bool := x.isFinite && x.units % unitsPerOne = 0

/-- The integer part of a finite number. -/
def truncate (x : Double) : Int :=
  let whole : Int := x.units / unitsPerOne
  if x.isNegative then -whole else whole

/-- The signed number of units of a finite number. -/
def signedUnits (x : Double) : Int := if x.isNegative then -(x.units : Int) else x.units

/-- Equality of values: the zeros are equal and a NaN differs from itself. -/
def sameValue : Double → Double → Bool
  | .nan, _ | _, .nan => false
  | .infinite a, .infinite b => a = b
  | .infinite _, _ | _, .infinite _ => false
  | x, y => x.signedUnits = y.signedUnits

/-- Equality of a number with an integer. -/
def equalsInt (x : Double) (i : Int) : Bool :=
  x.isFinite && x.signedUnits = i * unitsPerOne

/-- The double nearest to a number of units; zero is positive. -/
def ofUnits (units : Int) : Double := ofRatio (units < 0) units.natAbs unitsPerOne

/-- The sum of two numbers. -/
def add : Double → Double → Double
  | .nan, _ | _, .nan => .nan
  | .infinite a, .infinite b => if a = b then .infinite a else .nan
  | .infinite a, _ => .infinite a
  | _, .infinite b => .infinite b
  | x, y => ofUnits (x.signedUnits + y.signedUnits)

/-- The product of a number with a positive finite one. -/
def scale : Double → Double → Double
  | .nan, _ => .nan
  | .infinite a, _ => .infinite a
  | x, y => ofRatio x.isNegative (x.units * y.units) (unitsPerOne * unitsPerOne)

/-- The number with the other sign. -/
def negate : Double → Double
  | .nan => .nan
  | .infinite a => .infinite !a
  | .finite negative significand shift h => .finite (!negative) significand shift h

end Double

end ScriptTree
