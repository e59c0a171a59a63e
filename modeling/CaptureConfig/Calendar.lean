import CaptureConfig.Text.Hex
import CaptureConfig.Text.Integer

/-!
# Dates and moments

The Gregorian calendar of the years 1 to 9999, and the moments of its days with an optional distance from
universal time. `Date.ofDays` gives the date of a day counted from the first of January 1970.
-/

namespace CaptureConfig

/-- A day of the calendar. -/
structure Date where
  year : Nat
  month : Nat
  day : Nat
deriving Repr, DecidableEq, Inhabited

/-- A moment of a day. -/
structure Moment where
  date : Date
  hour : Nat
  minute : Nat
  second : Nat
  micros : Nat
  /-- The distance from universal time in minutes, if it is known. -/
  offset : Option Int
deriving Repr, DecidableEq, Inhabited

/-- Why numbers do not make a date or a moment. -/
inductive CalendarFault where
  | year (n : Nat)
  | month
  | day
  | hour
  | minute
  | second
  | offset (minutes : Int)
deriving Repr, DecidableEq

namespace Date

/-- Years of 366 days. -/
def isLeap (year : Nat) : Bool :=
  year % 4 == 0 && (year % 100 != 0 || year % 400 == 0)

/-- The number of days of a month. -/
def daysIn (year month : Nat) : Nat :=
  if month = 2 then (if isLeap year then 29 else 28)
  else if month = 4 || month = 6 || month = 9 || month = 11 then 30
  else 31

/-- The date with the given numbers. -/
def make? (year month day : Nat) : Except CalendarFault Date :=
  if year < 1 || 9999 < year then .error (.year year)
  else if month < 1 || 12 < month then .error .month
  else if day < 1 || daysIn year month < day then .error .day
  else .ok ⟨year, month, day⟩

/-- The date of a day counted from the first of January 1970, found in cycles of 400 years that begin
in March. -/
def ofDays (days : Int) : Date :=
  let z := days + 719468
  let era := z.fdiv 146097
  let doe := (z - era * 146097).toNat
  let yoe := (doe - doe / 1460 + doe / 36524 - doe / 146096) / 365
  let doy := doe - (365 * yoe + yoe / 4 - yoe / 100)
  let mp := (5 * doy + 2) / 153
  let day := doy - (153 * mp + 2) / 5 + 1
  let month := if mp < 10 then mp + 3 else mp - 9
  let year := (yoe : Int) + era * 400 + (if month ≤ 2 then 1 else 0)
  ⟨year.toNat, month, day⟩

/-- A number with at least the given number of digits. -/
def digits (width n : Nat) : String := Text.padLeft '0' width (Text.showNat n)

/-- A date as year, month and day. -/
def text (d : Date) : String :=
  digits 4 d.year ++ "-" ++ digits 2 d.month ++ "-" ++ digits 2 d.day

end Date

namespace Moment

/-- The moment with the given numbers. -/
def make? (year month day hour minute second micros : Nat) (offset : Option Int) :
    Except CalendarFault Moment := do
  if let some minutes := offset then
    if 1440 ≤ minutes.natAbs then throw (.offset minutes)
  let date ← Date.make? year month day
  if 23 < hour then throw .hour
  if 59 < minute then throw .minute
  if 59 < second then throw .second
  return ⟨date, hour, minute, second, micros, offset⟩

/-- Hours, minutes and seconds. -/
def clock (m : Moment) : String :=
  Date.digits 2 m.hour ++ ":" ++ Date.digits 2 m.minute ++ ":" ++ Date.digits 2 m.second

/-- The distance from universal time as text. -/
def offsetText (minutes : Int) : String :=
  (if minutes < 0 then "-" else "+") ++ Date.digits 2 (minutes.natAbs / 60) ++ ":" ++
    Date.digits 2 (minutes.natAbs % 60)

/-- A moment as a date and a time of day. -/
def text (m : Moment) : String :=
  m.date.text ++ " " ++ m.clock ++
    (if m.micros = 0 then "" else "." ++ Date.digits 6 m.micros) ++
    (m.offset.map offsetText).getD ""

/-- The moment that lies the given number of seconds after the start of 1970 in universal time. -/
def ofSeconds (seconds : Int) : Moment :=
  let days := seconds.fdiv 86400
  let rest := (seconds - days * 86400).toNat
  ⟨.ofDays days, rest / 3600, rest / 60 % 60, rest % 60, 0, none⟩

end Moment

/-- The wording of a fault. -/
def CalendarFault.message : CalendarFault → String
  | .year n => "year " ++ Text.showNat n ++ " is out of range"
  | .month => "month must be in 1..12"
  | .day => "day is out of range for month"
  | .hour => "hour must be in 0..23"
  | .minute => "minute must be in 0..59"
  | .second => "second must be in 0..59"
  | .offset minutes =>
    let days := minutes.fdiv 1440
    let seconds := (minutes - days * 1440) * 60
    "offset must be a timedelta strictly between -timedelta(hours=24) and timedelta(hours=24), " ++
      "not datetime.timedelta(days=" ++ Text.showInteger days ++
      (if seconds = 0 then "" else ", seconds=" ++ Text.showInteger seconds) ++ ")"

end CaptureConfig
