import TicketMigration.Text.Decimal
import TicketMigration.Text.Scan

/-!
# Moments

A moment is a day of the Gregorian calendar, extended to all years from 1 to 9999, and a time of
that day, with or without the distance of the clock from universal time.

## Main definitions

* `Moment` and `Moment.IsReal`: the fields, and the condition that they name a real moment.
* `Moment.iso`: the standard text of a moment.
* `Moment.isoZoned`: the same text, in which a moment without a zone is taken as universal time.
* `Moment.check` accepts the fields of real moments, `Moment.Fault` is what is wrong with others.
-/

namespace TicketMigration

open Text

/-- A day and a time of day. -/
structure Moment where
  /-- The year. -/
  year : Nat
  /-- The month, from 1. -/
  month : Nat
  /-- The day of the month, from 1. -/
  day : Nat
  /-- The hour. -/
  hour : Nat := 0
  /-- The minute. -/
  minute : Nat := 0
  /-- The second. -/
  second : Nat := 0
  /-- The millionths of the second. -/
  micro : Nat := 0
  /-- By how many microseconds the clock is ahead of universal time, if that is known. -/
  offset : Option Int := none
  deriving DecidableEq, Repr

/-- Whether the year has a 29th of February. -/
def isLeapYear (year : Nat) : Bool :=
  year % 4 == 0 && (year % 100 != 0 || year % 400 == 0)

/-- The number of days of a month. -/
def daysInMonth (year month : Nat) : Nat :=
  if month = 2 then if isLeapYear year then 29 else 28
  else if month = 4 ∨ month = 6 ∨ month = 9 ∨ month = 11 then 30
  else 31

namespace Moment

/-- The fields name a day of the calendar and a time of that day. -/
def IsReal (m : Moment) : Prop :=
  1 ≤ m.year ∧ m.year ≤ 9999 ∧ 1 ≤ m.month ∧ m.month ≤ 12 ∧
    1 ≤ m.day ∧ m.day ≤ daysInMonth m.year m.month ∧
    m.hour ≤ 23 ∧ m.minute ≤ 59 ∧ m.second ≤ 59 ∧ m.micro ≤ 999999

instance (m : Moment) : Decidable m.IsReal := by
  unfold IsReal
  infer_instance

/-- The date with dashes and the time with colons between the fields, and a `T` between the two. -/
def isoSeconds (m : Moment) : List Char :=
  padded 4 m.year ++ '-' :: padded 2 m.month ++ '-' :: padded 2 m.day ++
    'T' :: padded 2 m.hour ++ ':' :: padded 2 m.minute ++ ':' :: padded 2 m.second

/-- A fraction of a second, which is left out when it is zero. -/
def isoFraction (micro : Nat) : List Char :=
  if micro = 0 then [] else '.' :: padded 6 micro

/-- The distance from universal time, with seconds and microseconds only where they are needed. -/
def isoOffset (offset : Int) : List Char :=
  let size := offset.natAbs
  let seconds := size / 1000000
  let sign := if offset < 0 then '-' else '+'
  let tail :=
    if size % 60000000 = 0 then []
    else ':' :: padded 2 (seconds % 60) ++ isoFraction (size % 1000000)
  sign :: padded 2 (seconds / 3600) ++ ':' :: padded 2 (seconds / 60 % 60) ++ tail

/-- The standard text of a moment. -/
def iso (m : Moment) : List Char :=
  m.isoSeconds ++ isoFraction m.micro ++
    match m.offset with
    | some offset => isoOffset offset
    | none => []

/-- The standard text of a moment, taken as universal time where no zone is known. -/
def isoZoned (m : Moment) : List Char :=
  match m.offset with
  | some _ => m.iso
  | none => m.iso ++ ['Z']

/-- What is wrong with the fields of a moment. -/
inductive Fault
  /-- The calendar has no such year. -/
  | year (number : Nat)
  /-- The year has no such month. -/
  | month
  /-- The month has no such day. -/
  | day
  /-- The day has no such hour. -/
  | hour
  /-- The hour has no such minute. -/
  | minute
  /-- The minute has no such second; leap seconds are not known. -/
  | second
  deriving DecidableEq, Repr

/-- The text of a fault. -/
def Fault.message : Fault → String
  | .year n => "year " ++ toString n ++ " is out of range"
  | .month => "month must be in 1..12"
  | .day => "day is out of range for month"
  | .hour => "hour must be in 0..23"
  | .minute => "minute must be in 0..59"
  | .second => "second must be in 0..59"

/-- Accepts the fields of a real moment, and finds fault with the first field that is not one of a
real moment. -/
def check (m : Moment) : Except Fault Moment :=
  if m.year < 1 ∨ 9999 < m.year then .error (.year m.year)
  else if m.month < 1 ∨ 12 < m.month then .error .month
  else if m.day < 1 ∨ daysInMonth m.year m.month < m.day then .error .day
  else if 23 < m.hour then .error .hour
  else if 59 < m.minute then .error .minute
  else if 59 < m.second then .error .second
  else .ok m

end Moment

end TicketMigration
