/-!
Dates and moments of the calendar.

A moment is a date, a time of day to the microsecond and, if it is known, the distance of its clock
from universal time. Dates run over the years 1 to 9999.
-/

namespace TurtleEdit

/-- Why numbers give no date or moment. -/
inductive CalendarFault where
  | year (n : Nat)
  | month
  | day
  | hour
  | minute
  | second
  | offset (seconds : Int)
  deriving DecidableEq, Repr

/-- A day of the calendar. -/
structure Date where
  year : Nat
  month : Nat
  day : Nat
  deriving DecidableEq, Repr

/-- A date and a time of day; the offset is in minutes. -/
structure Moment where
  date : Date
  hour : Nat
  minute : Nat
  second : Nat
  microsecond : Nat
  offset : Option Int
  deriving DecidableEq, Repr

/-- Years with a leap day. -/
def isLeapYear (year : Nat) : Bool := year % 4 == 0 && (year % 100 != 0 || year % 400 == 0)

/-- The days of a month. -/
def daysInMonth (year month : Nat) : Nat :=
  if month = 2 then if isLeapYear year then 29 else 28
  else if month = 4 ∨ month = 6 ∨ month = 9 ∨ month = 11 then 30
  else 31

/-- The date of three numbers. -/
def Date.make (year month day : Nat) : Except CalendarFault Date :=
  if year = 0 ∨ 9999 < year then .error (.year year)
  else if month = 0 ∨ 12 < month then .error .month
  else if day = 0 ∨ daysInMonth year month < day then .error .day
  else .ok ⟨year, month, day⟩

/-- The days from the start of year 1 to a date. -/
def Date.ordinal (date : Date) : Nat :=
  let past := date.year - 1
  let months := (List.range (date.month - 1)).foldl
    (fun days m => days + daysInMonth date.year (m + 1)) 0
  past * 365 + past / 4 - past / 100 + past / 400 + months + date.day

/-- The moment of a date and a time of day. The offset is looked at first. -/
def Moment.make (year month day hour minute second microsecond : Nat) (offset : Option Int) :
    Except CalendarFault Moment := do
  if let some minutes := offset then
    if minutes ≤ -1440 ∨ 1440 ≤ minutes then
      throw (.offset (minutes * 60))
  let date ← Date.make year month day
  if 23 < hour then throw .hour
  if 59 < minute then throw .minute
  if 59 < second then throw .second
  return ⟨date, hour, minute, second, microsecond, offset⟩

/-- Microseconds of a moment on the clock of universal time, counted from the start of year 1. -/
def Moment.instant (m : Moment) : Int :=
  let minutes : Int := m.date.ordinal * 1440 + m.hour * 60 + m.minute - m.offset.getD 0
  (minutes * 60 + m.second) * 1000000 + m.microsecond

/-- Equality of moments: by instant when both clocks are known, by their numbers when neither is. -/
def Moment.same (m n : Moment) : Bool :=
  m.offset.isSome == n.offset.isSome && m.instant == n.instant

/-! ## Wording -/

/-- A number with leading zeros. -/
def padded (width n : Nat) : String :=
  let digits := toString n
  String.ofList (List.replicate (width - digits.length) '0') ++ digits

/-- A length of time given in seconds, as whole days and the seconds of the last. -/
def durationText (seconds : Int) : String :=
  let days := seconds.fdiv 86400
  let rest := seconds.fmod 86400
  let parts := (if days = 0 then [] else ["days=" ++ toString days]) ++
    (if rest = 0 then [] else ["seconds=" ++ toString rest])
  "datetime.timedelta(" ++ (if parts.isEmpty then "0" else ", ".intercalate parts) ++ ")"

/-- The wording of a fault. -/
def CalendarFault.message : CalendarFault → String
  | year n => s!"year {n} is out of range"
  | month => "month must be in 1..12"
  | day => "day is out of range for month"
  | hour => "hour must be in 0..23"
  | minute => "minute must be in 0..59"
  | second => "second must be in 0..59"
  | offset seconds =>
    "offset must be a timedelta strictly between -timedelta(hours=24) and timedelta(hours=24), " ++
      "not " ++ durationText seconds ++ "."

/-- The date as digits. -/
def Date.plain (date : Date) : String :=
  padded 4 date.year ++ "-" ++ padded 2 date.month ++ "-" ++ padded 2 date.day

/-- The date as a call that makes it. -/
def Date.quoted (date : Date) : String :=
  s!"datetime.date({date.year}, {date.month}, {date.day})"

/-- The offset as signed hours and minutes. -/
def offsetPlain (minutes : Int) : String :=
  (if minutes < 0 then "-" else "+") ++ padded 2 (minutes.natAbs / 60) ++ ":" ++
    padded 2 (minutes.natAbs % 60)

/-- The moment as digits. -/
def Moment.plain (m : Moment) : String :=
  m.date.plain ++ " " ++ padded 2 m.hour ++ ":" ++ padded 2 m.minute ++ ":" ++ padded 2 m.second ++
    (if m.microsecond = 0 then "" else "." ++ padded 6 m.microsecond) ++
    (match m.offset with
      | some minutes => offsetPlain minutes
      | none => "")

/-- The levels below a moment as a call that makes it: its clock is one, and the offset of a clock
that is not the universal one is another. -/
def Moment.levels (m : Moment) : Nat :=
  match m.offset with
  | none => 0
  | some minutes => if minutes = 0 then 1 else 2

/-- The clock of a moment as a call that makes it. -/
def zoneQuoted (minutes : Int) : String :=
  if minutes = 0 then "datetime.timezone.utc"
  else "datetime.timezone(" ++ durationText (minutes * 60) ++ ")"

/-- The moment as a call that makes it; seconds and microseconds are left out where they end the
numbers with zeros. -/
def Moment.quoted (m : Moment) : String :=
  let numbers := [m.date.year, m.date.month, m.date.day, m.hour, m.minute] ++
    (if m.microsecond = 0 then if m.second = 0 then [] else [m.second]
      else [m.second, m.microsecond])
  "datetime.datetime(" ++ ", ".intercalate (numbers.map toString) ++
    (match m.offset with
      | some minutes => ", tzinfo=" ++ zoneQuoted minutes
      | none => "") ++ ")"

end TurtleEdit
