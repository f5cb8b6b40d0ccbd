import ScriptTree.Number.Double
import ScriptTree.Number.Integer
import ScriptTree.Text.LowerCase
import ScriptTree.Text.Quoted
import ScriptTree.Yaml.Data

namespace ScriptTree

namespace Yaml

/-- Why a scalar does not denote a value of its tag. -/
inductive Misreading where
  | notBoolean (text : Text)
  | notInteger (base : Nat) (text : Text)
  | notFloat (text : Text)
  /-- No digits at all. -/
  | noDigits
  /-- Too many digits. -/
  | digits (overflow : DigitOverflow)
  /-- More parts in base sixty than a double holds. -/
  | manyParts
  | notTimestamp
  /-- A collection that stands for a timestamp. -/
  | timestampParts
  | moment (flaw : MomentFlaw)
deriving DecidableEq

/-- The wording of a misreading. -/
def Misreading.message : Misreading → Text
  | notBoolean t => Text.quoted t
  | notInteger base t =>
    "invalid literal for int() with base " ++ Text.ofNat base ++ ": " ++ (Text.quoted t).take 200
  | notFloat t => "could not convert string to float: " ++ Text.quoted t
  | noDigits => "string index out of range"
  | digits e => e.message
  | manyParts => "int too large to convert to float"
  | notTimestamp => "'NoneType' object has no attribute 'groupdict'"
  | timestampParts => "expected string or bytes-like object, got 'list'"
  | moment flaw => flaw.message

namespace Reading

/-- A truth value. -/
def boolean (t : Text) : Except Misreading Bool :=
  let l := t.lowerCase
  if l = "yes" ∨ l = "true" ∨ l = "on" then .ok true
  else if l = "no" ∨ l = "false" ∨ l = "off" then .ok false
  else .error (.notBoolean l)

/-- The integer that digits in a base denote. -/
def digitsIn (base : Nat) (t : Text) : Except Misreading Int :=
  match Integer.read base t with
  | .ok n => .ok n
  | .error .malformed => .error (.notInteger base t)
  | .error (.digits e) => .error (.digits e)

/-- A text without underscores. -/
def withoutLow (t : Text) : Text := t.filter (· ≠ CodePoint.ofChar '_')

/-- A text starts with a string. -/
def starts (s : String) (t : Text) : Bool := List.isPrefixOf (Text.ofString s) t

/-- The parts of a number in base sixty, most significant first, as one integer. -/
def sexagesimal (parts : List Int) : Int := parts.foldl (fun n d => n * 60 + d) 0

/-- An integer: in base two after `0b`, sixteen after `0x`, eight after `0`, sixty with colons and
ten otherwise. -/
def integer (t : Text) : Except Misreading Int := do
  let (negative, t) := Integer.splitSign (withoutLow t)
  let colon := CodePoint.ofChar ':'
  let n ←
    if t.isEmpty then .error .noDigits
    else if t = "0" then pure 0
    else if starts "0b" t then digitsIn 2 (t.drop 2)
    else if starts "0x" t then digitsIn 16 (t.drop 2)
    else if starts "0" t then digitsIn 8 t
    else if t.contains colon then sexagesimal <$> (Text.split colon t).mapM (digitsIn 10)
    else digitsIn 10 t
  return if negative then -n else n

/-- A number with a point or an exponent, or the name of one that is not finite. -/
def decimal (t : Text) : Except Misreading Double :=
  let (negative, rest) := Integer.splitSign (Integer.trimmed t)
  if rest = "inf" ∨ rest = "infinity" then .ok (.infinite negative)
  else if rest = "nan" then .ok .nan
  else
    match Double.readUnsigned negative rest with
    | some x => .ok x
    | none => .error (.notFloat t)

/-- The value of parts in base sixty, least significant first. -/
def sexagesimalFloat : Nat → List Double → Double → Except Misreading Double
  | _, [], sum => .ok sum
  | place, x :: xs, sum =>
    match Double.ofInt place with
    | .infinite _ => .error .manyParts
    | weight => sexagesimalFloat (place * 60) xs (sum.add (x.scale weight))

def float (t : Text) : Except Misreading Double := do
  let l := (withoutLow t).lowerCase
  let (negative, t) := Integer.splitSign l
  let colon := CodePoint.ofChar ':'
  let x ←
    if l.isEmpty then .error .noDigits
    else if t = ".inf" then pure (.infinite false)
    else if t = ".nan" then return .nan
    else if t.contains colon then do
      let parts ← (Text.split colon t).mapM decimal
      sexagesimalFloat 1 parts.reverse (Double.zero false)
    else decimal t
  return if negative then x.negate else x

/-- Whether a text is a name of the NaN, rather than a number that is none. -/
def namesNan (t : Text) : Bool := (Integer.splitSign (withoutLow t).lowerCase).2 = ".nan"

/-- A reader of a part of a text. -/
abbrev Piece := StateT Text Option

namespace Piece

/-- A code point of a class. -/
def one (test : CodePoint → Bool) : Piece CodePoint := do
  match ← get with
  | c :: rest =>
    if test c then
      set rest
      return c
    else failure
  | [] => failure

/-- A given code point. -/
def char (c : Char) : Piece PUnit := discard (one fun d => d = CodePoint.ofChar c)

/-- A run of a class. -/
def many (test : CodePoint → Bool) : Piece Text := do
  let t ← get
  set (t.dropWhile test)
  return t.takeWhile test

/-- A number of at least `least` and at most `most` digits. -/
def number (least most : Nat) : Piece Nat := do
  let t ← get
  let digits := (t.take most).takeWhile CodePoint.isDigit
  if digits.length < least then failure
  set (t.drop digits.length)
  return Text.decimalValue digits

/-- A part that may be missing. -/
def perhaps {α : Type} (p : Piece α) : Piece (Option α) := fun t =>
  match p t with
  | some (a, rest) => some (some a, rest)
  | none => some (none, t)

end Piece

open Piece in
/-- Millionths of a second after a point. -/
def fraction : Piece Nat := do
  char '.'
  let digits ← many CodePoint.isDigit
  let six := digits.take 6
  return Text.decimalValue (six ++ List.replicate (6 - six.length) (CodePoint.ofChar '0'))

open Piece in
/-- The offset from universal time in minutes. -/
def zone : Piece Int := do
  discard (many fun c => c = ' ' || c = '\t')
  let c ← one fun c => c = 'Z' || c = '+' || c = '-'
  if c = 'Z' then return 0
  else
    let hours ← number 1 2
    let minutes ← perhaps do
      char ':'
      number 2 2
    let total : Int := hours * 60 + minutes.getD 0
    return if c = '-' then -total else total

open Piece in
/-- The time of a day after a date. -/
def time (date : Date) : Piece Moment := do
  let t ← perhaps (one fun c => c = 'T' || c = 't')
  if t.isNone then
    let blanks ← many fun c => c = ' ' || c = '\t'
    if blanks.isEmpty then failure
  let hour ← number 1 2
  char ':'
  let minute ← number 2 2
  char ':'
  let second ← number 2 2
  let microsecond ← perhaps fraction
  let offset ← perhaps zone
  return { date, hour, minute, second, microsecond := microsecond.getD 0, offset }

open Piece in
/-- A date, and a time if one follows. -/
def dateAndTime : Piece (Date × Option Moment) := do
  let year ← number 4 4
  char '-'
  let month ← number 1 2
  char '-'
  let day ← number 1 2
  let date : Date := { year, month, day }
  return (date, ← perhaps (time date))

/-- A date or a date and time; a line break may follow. -/
def timestamp (t : Text) : Except Misreading Data :=
  let whole := if t.getLast? = some (CodePoint.ofChar '\n') then t.dropLast else t
  match dateAndTime whole with
  | some ((date, none), []) =>
    match date.flaw? with
    | some flaw => .error (.moment flaw)
    | none => .ok (.date date)
  | some ((_, some m), []) =>
    match m.flaw? with
    | some flaw => .error (.moment flaw)
    | none => .ok (.moment m)
  | _ => .error .notTimestamp

end Reading

end Yaml

end ScriptTree
