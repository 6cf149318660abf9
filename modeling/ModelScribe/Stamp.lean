/-! # Time stamps

* `Stamp`: a date of the Gregorian calendar and a time of day, checked.
* `Stamp.text`: `YYYY/MM/DD HH:MM:SS`.
-/

namespace ModelScribe

/-- Whether a year has a 29th of February. -/
def isLeapYear (year : Int) : Bool :=
  year % 4 = 0 && (year % 100 ≠ 0 || year % 400 = 0)

/-- The number of days of a month. -/
def daysInMonth (year : Int) (month : Nat) : Nat :=
  if month = 2 then if isLeapYear year then 29 else 28
  else if month = 4 ∨ month = 6 ∨ month = 9 ∨ month = 11 then 30
  else 31

/-- The date exists, and its year is within the calendar's range. -/
def IsDate (year : Int) (month day : Nat) : Prop :=
  -262143 ≤ year ∧ year ≤ 262142 ∧ 1 ≤ month ∧ month ≤ 12 ∧ 1 ≤ day ∧
    day ≤ daysInMonth year month

/-- The number of nanoseconds of a second. -/
def nanoseconds : Nat := 1000000000

/-- The time exists; only the last second of a minute may run on for a second one. -/
def IsTime (hour minute second nanosecond : Nat) : Prop :=
  hour < 24 ∧ minute < 60 ∧ second < 60 ∧
    (nanosecond < nanoseconds ∨ (nanosecond < 2 * nanoseconds ∧ second = 59))

instance (year : Int) (month day : Nat) : Decidable (IsDate year month day) :=
  inferInstanceAs (Decidable (_ ∧ _))

instance (hour minute second nanosecond : Nat) :
    Decidable (IsTime hour minute second nanosecond) :=
  inferInstanceAs (Decidable (_ ∧ _))

/-- A date and a time of day. -/
structure Stamp where
  year : Int
  month : Nat
  day : Nat
  hour : Nat
  minute : Nat
  second : Nat
  nanosecond : Nat
  isDate : IsDate year month day
  isTime : IsTime hour minute second nanosecond
  deriving DecidableEq

namespace Stamp

/-- The stamp with these parts, if there is such a date and time. -/
def of? (year : Int) (month day hour minute second nanosecond : Nat) : Option Stamp :=
  if isDate : IsDate year month day then
    if isTime : IsTime hour minute second nanosecond then
      some ⟨year, month, day, hour, minute, second, nanosecond, isDate, isTime⟩
    else none
  else none

/-- A number with at least so many digits. -/
def padded (width value : Nat) : String :=
  let digits := toString value
  "".pushn '0' (width - digits.length) ++ digits

/-- The year with four digits, signed outside the range of four digits. -/
def yearText (year : Int) : String :=
  if 0 ≤ year ∧ year ≤ 9999 then padded 4 year.natAbs
  else (if year < 0 then "-" else "+") ++ padded 4 year.natAbs

/-- The second as a clock shows it: one that runs on is the sixtieth. -/
def shownSecond (stamp : Stamp) : Nat :=
  stamp.second + stamp.nanosecond / nanoseconds

/-- The text of a stamp. -/
def text (stamp : Stamp) : String :=
  yearText stamp.year ++ "/" ++ padded 2 stamp.month ++ "/" ++ padded 2 stamp.day ++ " " ++
    padded 2 stamp.hour ++ ":" ++ padded 2 stamp.minute ++ ":" ++ padded 2 stamp.shownSecond

end Stamp

end ModelScribe
