import ScriptTree.Basic

namespace ScriptTree

namespace Yaml

/-- A date of the proleptic Gregorian calendar. -/
structure Date where
  year : Nat
  month : Nat
  day : Nat
deriving DecidableEq

/-- A date and a time of the day. -/
structure Moment where
  date : Date
  hour : Nat
  minute : Nat
  second : Nat
  microsecond : Nat
  /-- Minutes by which the time is ahead of universal time. -/
  offset : Option Int
deriving DecidableEq

/-- Why there is no such date or time. -/
inductive MomentFlaw where
  | year (year : Nat)
  | month
  | day
  | hour
  | minute
  | second
  | offset (minutes : Int)
deriving DecidableEq

def isLeapYear (year : Nat) : Bool := year % 4 = 0 && (year % 100 ≠ 0 || year % 400 = 0)

/-- The number of days of a month. -/
def daysOfMonth (year month : Nat) : Nat :=
  if month = 2 then (if isLeapYear year then 29 else 28)
  else if month = 4 ∨ month = 6 ∨ month = 9 ∨ month = 11 then 30
  else 31

/-- The number of days from the start of the calendar to a date. -/
def Date.daysBefore (d : Date) : Nat :=
  let past := d.year - 1
  let months := (List.range (d.month - 1)).map fun m => daysOfMonth d.year (m + 1)
  past * 365 + past / 4 - past / 100 + past / 400 + months.foldl (· + ·) 0 + d.day

/-- The minutes from the start of the calendar to the minute of a moment, in universal time if its
offset is known. -/
def Moment.minutes (m : Moment) : Int :=
  ((m.date.daysBefore * 24 + m.hour) * 60 + m.minute : Nat) - m.offset.getD 0

/-- Whether two moments are the same. One whose offset is known is never one whose offset is not. -/
def Moment.same (a b : Moment) : Bool :=
  a.offset.isSome = b.offset.isSome && a.minutes = b.minutes && a.second = b.second
    && a.microsecond = b.microsecond

/-- A number with leading zeros. -/
def padded (width n : Nat) : Text :=
  let digits := Text.ofNat n
  List.replicate (width - digits.length) (CodePoint.ofChar '0') ++ digits

/-- A number of minutes as days and seconds, the seconds not negative. -/
def durationInspect (minutes : Int) : Text :=
  let days := minutes / 1440
  let seconds := minutes % 1440 * 60
  let parts : List Text :=
    (if days = 0 then [] else ["days=" ++ Text.ofInt days]) ++
      (if seconds = 0 then [] else ["seconds=" ++ Text.ofInt seconds])
  "datetime.timedelta(" ++ (if parts.isEmpty then Text.ofString "0" else Text.join ", " parts)
    ++ ")"

/-- The wording of a flaw. -/
def MomentFlaw.message : MomentFlaw → Text
  | year y => "year " ++ Text.ofNat y ++ " is out of range"
  | month => "month must be in 1..12"
  | day => "day is out of range for month"
  | hour => "hour must be in 0..23"
  | minute => "minute must be in 0..59"
  | second => "second must be in 0..59"
  | offset minutes =>
    "offset must be a timedelta strictly between -timedelta(hours=24) and timedelta(hours=24), not "
      ++ durationInspect minutes ++ "."

/-- The flaw of a date, if it has one. -/
def Date.flaw? (d : Date) : Option MomentFlaw :=
  if d.year = 0 ∨ 9999 < d.year then some (.year d.year)
  else if d.month = 0 ∨ 12 < d.month then some .month
  else if d.day = 0 ∨ daysOfMonth d.year d.month < d.day then some .day
  else none

/-- The flaw of a date and time, if it has one. The offset is looked at first. -/
def Moment.flaw? (m : Moment) : Option MomentFlaw :=
  match m.offset.filter fun o => 1440 ≤ o.natAbs with
  | some o => some (.offset o)
  | none =>
    m.date.flaw? <|>
      (if 23 < m.hour then some .hour
       else if 59 < m.minute then some .minute
       else if 59 < m.second then some .second
       else none)

/-- A date by itself. -/
def Date.display (d : Date) : Text :=
  padded 4 d.year ++ "-" ++ padded 2 d.month ++ "-" ++ padded 2 d.day

/-- A date inside a container. -/
def Date.inspect (d : Date) : Text :=
  "datetime.date(" ++ Text.join ", " ([d.year, d.month, d.day].map Text.ofNat) ++ ")"

/-- An offset as hours and minutes. -/
def offsetDisplay (minutes : Int) : Text :=
  (if minutes < 0 then "-" else "+" : Text) ++ padded 2 (minutes.natAbs / 60) ++ ":"
    ++ padded 2 (minutes.natAbs % 60)

/-- A date and time by itself. -/
def Moment.display (m : Moment) : Text :=
  m.date.display ++ " " ++ padded 2 m.hour ++ ":" ++ padded 2 m.minute ++ ":" ++ padded 2 m.second
    ++ (if m.microsecond = 0 then [] else Text.ofString "." ++ padded 6 m.microsecond)
    ++ (m.offset.map offsetDisplay).getD []

/-- A date and time inside a container. -/
def Moment.inspect (m : Moment) : Text :=
  let seconds :=
    if m.microsecond ≠ 0 then [m.second, m.microsecond]
    else if m.second ≠ 0 then [m.second]
    else []
  let numbers := [m.date.year, m.date.month, m.date.day, m.hour, m.minute] ++ seconds
  let zone : List Text := match m.offset with
    | none => []
    | some 0 => ["tzinfo=datetime.timezone.utc"]
    | some o => ["tzinfo=datetime.timezone(" ++ durationInspect o ++ ")"]
  "datetime.datetime(" ++ Text.join ", " (numbers.map Text.ofNat ++ zone) ++ ")"

end Yaml

end ScriptTree
