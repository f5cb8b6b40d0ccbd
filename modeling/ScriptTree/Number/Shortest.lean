import ScriptTree.Number.Double

namespace ScriptTree

/-- The decimal `0.d₁d₂… * 10 ^ point` with the digits `d₁`, `d₂`, …. -/
structure Decimal where
  digits : List Nat
  point : Int
deriving DecidableEq

namespace Double

/-- The reals that round to a finite number other than zero, in quarters of a unit: from `low` to
`high`, the ends included if `closed`. -/
structure Interval where
  low : Nat
  high : Nat
  closed : Bool

/-- The gap below a power of two is half as wide as the gap above it. -/
def interval (significand shift : Nat) : Interval :=
  let quarters := 4 * significand * Nat.pow 2 shift
  let below :=
    if significand = Nat.pow 2 52 ∧ 0 < shift then Nat.pow 2 shift else 2 * Nat.pow 2 shift
  { low := quarters - below
    high := quarters + 2 * Nat.pow 2 shift
    closed := significand % 2 = 0 }

/-- `c * 10 ^ k` and `b` quarters of a unit, brought to one denominator. -/
def crossed (c : Nat) (k : Int) (b : Nat) : Nat × Nat :=
  (c * Nat.pow 10 k.toNat * (4 * unitsPerOne), b * Nat.pow 10 (-k).toNat)

/-- Whether `c * 10 ^ k` lies in the interval. -/
def Interval.holds (i : Interval) (c : Nat) (k : Int) : Bool :=
  let lower := crossed c k i.low
  let upper := crossed c k i.high
  if i.closed then lower.2 ≤ lower.1 && upper.1 ≤ upper.2
  else lower.2 < lower.1 && upper.1 < upper.2

/-- The number of zeros between the point and the first digit of `num / den`, for a quotient
between zero and one, at most `fuel`. -/
def leadingZeros : Nat → Nat → Nat → Nat
  | 0, _, _ => 0
  | fuel + 1, num, den => if den ≤ 10 * num then 0 else leadingZeros fuel (10 * num) den + 1

/-- The least `p` with `units / unitsPerOne < 10 ^ p`, for a positive number. -/
def decimalPoint (units : Nat) : Int :=
  if unitsPerOne ≤ units then (Text.decimalDigits (units / unitsPerOne)).length
  else -(leadingZeros 330 units unitsPerOne : Int)

/-- The candidate on the grid of step `10 ^ k`: the neighbours of the value that lie in the
interval, of two the nearer, of two equally near the even one. -/
def gridCandidate (i : Interval) (quarters : Nat) (k : Int) : Option Nat :=
  let step := crossed 1 k quarters
  let below := step.2 / step.1
  let twice := 2 * (step.2 % step.1)
  match i.holds below k && 0 < below, i.holds (below + 1) k with
  | true, true =>
    if twice < step.1 then some below
    else if step.1 < twice then some (below + 1)
    else if below % 2 = 0 then some below else some (below + 1)
  | true, false => some below
  | false, true => some (below + 1)
  | false, false => none

/-- Zeros at the end of the digits say nothing. -/
def trimZeros (digits : List Nat) : List Nat := (digits.reverse.dropWhile (· = 0)).reverse

/-- The shortest decimal of a positive number; seventeen digits always suffice. -/
def shortest (significand shift : Nat) : Decimal :=
  let units := significand * Nat.pow 2 shift
  let point := decimalPoint units
  let i := interval significand shift
  let found := (List.range 17).findSome? fun (n : Nat) =>
    (gridCandidate i (4 * units) (point - (n + 1))).map fun c => (c, n + 1)
  match found with
  | some (c, n) =>
    let digits := Text.decimalDigits c
    { digits := trimZeros digits, point := point - n + digits.length }
  | none => { digits := [0], point := 1 }

end Double

end ScriptTree
