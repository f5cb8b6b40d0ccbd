import ScriptTree.Number.Integer

namespace ScriptTree

/-- Why a description places no text. -/
inductive PlacementFlaw where
  /-- A number that is too large. -/
  | longNumber
  /-- A point without a number after it. -/
  | noPrecision
  /-- More is left after all parts have been read. -/
  | malformed (description : Text)
  | bothSeparators
  /-- A separator of thousands with a type that has none. -/
  | separator (mark type : CodePoint)
  | unknownType (type : CodePoint)
  | space
  | sign
  | negativeZero
  | alternate
  /-- Padding between a sign and a number. -/
  | afterSign
  /-- More padding than memory holds. -/
  | tooWide
deriving DecidableEq

/-- A code point as messages show it: by its number if it has no visible form in ASCII. -/
def CodePoint.named (past : Nat) (c : CodePoint) : Text :=
  if 32 < c.val ∧ c.val < past then [c] else "\\x" ++ Text.hexadecimal 1 c.val

/-- The wording of a flaw. -/
def PlacementFlaw.message : PlacementFlaw → Text
  | longNumber => "Too many decimal digits in format string"
  | noPrecision => "Format specifier missing precision"
  | malformed description =>
    "Invalid format specifier '" ++ description ++ "' for object of type 'str'"
  | bothSeparators => "Cannot specify both ',' and '_'."
  | separator mark type =>
    "Cannot specify '" ++ mark :: (Text.ofString "' with '" ++ type.named 128 ++ "'.")
  | unknownType type =>
    "Unknown format code '" ++ type.named 128 ++ "' for object of type 'str'"
  | space => "Space not allowed in string format specifier"
  | sign => "Sign not allowed in string format specifier"
  | negativeZero => "Negative zero coercion (z) not allowed in string format specifier"
  | alternate => "Alternate form (#) not allowed in string format specifier"
  | afterSign => "'=' alignment not allowed in string format specifier"
  | tooWide => ""

/-- Where a text stands in its padding. -/
inductive Side where
  | left
  | center
  | right
  | afterSign
deriving DecidableEq

/-- How a text is placed. -/
structure Placement where
  fill : CodePoint
  side : Side
  width : Option Nat
  /-- The length to which a longer text is cut. -/
  precision : Option Nat

namespace Placement

/-- The greatest number in a description. -/
def greatestNumber : Nat := 9223372036854775807

/-- The greatest width that memory holds. -/
def greatestWidth : Nat := 1000000000000

/-- A reader of a description. -/
abbrev Step := StateT Text (Except PlacementFlaw)

/-- The next code point if it is one of some, past it. -/
def oneOf (s : String) : Step (Option CodePoint) := do
  match ← get with
  | c :: rest =>
    if (Text.ofString s).contains c then
      set rest
      return some c
    else return none
  | [] => return none

/-- A number, if digits are next. -/
def number : Step (Option Nat) := do
  let t ← get
  let digits := t.leadingDigits
  let value := Text.ofDigitValues 10 digits
  if digits.isEmpty then return none
  if greatestNumber < value then throw .longNumber
  set (t.drop digits.length)
  return some value

/-- The side that a mark names. -/
def side? (c : CodePoint) : Option Side :=
  if c = '<' then some .left
  else if c = '>' then some .right
  else if c = '^' then some .center
  else if c = '=' then some .afterSign
  else none

/-- The fill, if one is named, and the side, if one is named. A fill stands only before a side. -/
def alignment : Step (Option CodePoint × Option Side) := do
  match ← get with
  | [] => return (none, none)
  | c :: rest =>
    match rest.head?.bind side? with
    | some side =>
      set (rest.drop 1)
      return (some c, some side)
    | none =>
      match side? c with
      | some side =>
        set rest
        return (none, some side)
      | none => return (none, none)

/-- The separator of thousands, if one is named. -/
def separator : Step (Option CodePoint) := do
  let comma ← oneOf ","
  let low ← oneOf "_"
  if comma.isSome && low.isSome then throw .bothSeparators
  if low.isSome && (← get).head? = some (CodePoint.ofChar ',') then throw .bothSeparators
  return comma <|> low

/-- Whether numbers of a type can have a separator of thousands. -/
def allows (mark type : CodePoint) : Bool :=
  (Text.ofString "defgEGF%").contains type
    || (mark = CodePoint.ofChar '_' && (Text.ofString "boxX").contains type)

/-- The placement that a description names, if it is one of texts. -/
def described (description : Text) : Step Placement := do
  let (fill, side) ← alignment
  let sign ← oneOf " +-"
  let negativeZero ← oneOf "z"
  let alternate ← oneOf "#"
  let zero ← if fill.isNone then oneOf "0" else pure none
  let width ← number
  let mark ← separator
  let precision ← if (← oneOf ".").isSome then
      match ← number with
      | some n => pure (some n)
      | none => throw .noPrecision
    else pure none
  let type ← match ← get with
    | [] => pure (CodePoint.ofChar 's')
    | [c] => pure c
    | _ => throw (.malformed description)
  match mark with
  | some m => if !allows m type then throw (.separator m type)
  | none => pure ()
  if type ≠ CodePoint.ofChar 's' then throw (.unknownType type)
  match sign with
  | some c => throw (if c = ' ' then .space else .sign)
  | none => pure ()
  if negativeZero.isSome then throw .negativeZero
  if alternate.isSome then throw .alternate
  if side = some .afterSign then throw .afterSign
  return { fill := (fill <|> zero).getD (CodePoint.ofChar ' '), side := side.getD .left, width,
           precision }

/-- The placement that a description names. -/
def read (description : Text) : Except PlacementFlaw Placement :=
  (described description).run' description

/-- A text in its place. -/
def place (p : Placement) (t : Text) : Except PlacementFlaw Text :=
  let cut := match p.precision with
    | some n => t.take n
    | none => t
  let missing := p.width.getD 0 - cut.length
  if greatestWidth < missing then .error .tooWide
  else
    let before := match p.side with
      | .left | .afterSign => 0
      | .center => missing / 2
      | .right => missing
    .ok (List.replicate before p.fill ++ cut ++ List.replicate (missing - before) p.fill)

end Placement

end ScriptTree
