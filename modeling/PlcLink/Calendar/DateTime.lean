/-!
# Dates and times of day

The proleptic Gregorian calendar with times of day in milliseconds. A leap
second is a millisecond value from 1000 on and may only follow second 59.
-/

namespace PlcLink

/-- Whether a year has a 29th of February. -/
def isLeapYear (year : Int) : Bool :=
  year % 4 == 0 && (year % 100 != 0 || year % 400 == 0)

/-- Number of days of each month of a year, January first. -/
def monthLengths (year : Int) : List Nat :=
  [31, if isLeapYear year then 29 else 28,
    31, 30, 31, 30, 31, 31, 30, 31, 30, 31]

/-- Number of days of a month counted from one, or zero for no month. -/
def monthLength (year : Int) (month : Nat) : Nat :=
  if month = 0 then 0 else (monthLengths year).getD (month - 1) 0

/-- The years a date can have. -/
def IsYear (year : Int) : Prop :=
  -262143 ≤ year ∧ year ≤ 262142

instance (year : Int) : Decidable (IsYear year) :=
  inferInstanceAs (Decidable (_ ∧ _))

/-- A day that occurs in the calendar. -/
def IsDate (year : Int) (month day : Nat) : Prop :=
  IsYear year ∧ 1 ≤ day ∧ day ≤ monthLength year month

instance (year : Int) (month day : Nat) : Decidable (IsDate year month day) :=
  inferInstanceAs (Decidable (_ ∧ _ ∧ _))

/-- A time that occurs in a day, leap seconds included. -/
def IsTime (hour minute second millisecond : Nat) : Prop :=
  hour < 24 ∧ minute < 60 ∧ second < 60 ∧
    (millisecond < 1000 ∨ second = 59 ∧ millisecond < 2000)

instance (hour minute second millisecond : Nat) :
    Decidable (IsTime hour minute second millisecond) :=
  inferInstanceAs (Decidable (_ ∧ _ ∧ _ ∧ _))

/-- A date with a time of day. -/
structure DateTime where
  year : Int
  month : Nat
  day : Nat
  hour : Nat
  minute : Nat
  second : Nat
  millisecond : Nat
  isDate : IsDate year month day
  isTime : IsTime hour minute second millisecond
  deriving DecidableEq

namespace DateTime

/-- The date and time of the given parts, if there is one. -/
def ofParts?
    (year : Int)
    (month day hour minute second millisecond : Nat) : Option DateTime :=
  if isDate : IsDate year month day then
    if isTime : IsTime hour minute second millisecond then
      some
        { year, month, day, hour, minute, second, millisecond, isDate, isTime }
    else
      none
  else
    none

/-- Days from the first of January of year 1 to the first of January of a
year. -/
def daysBeforeYear (year : Int) : Int :=
  let past := year - 1
  365 * past + past / 4 - past / 100 + past / 400

/-- Days from the first of January of year 1, a Monday. -/
def dayNumber (moment : DateTime) : Int :=
  daysBeforeYear moment.year
    + ((monthLengths moment.year).take (moment.month - 1)).foldl Nat.add 0
    + (moment.day - 1 : Nat)

/-- The day of the week, Sunday being 1. -/
def weekday (moment : DateTime) : Nat :=
  ((moment.dayNumber + 1) % 7).toNat + 1

/-- Number of days of a year. -/
def yearLength (year : Int) : Nat :=
  if isLeapYear year then 366 else 365

theorem yearLength_pos (year : Int) : 0 < yearLength year := by
  unfold yearLength
  split <;> omega

/-- The month and the day of a year that lie the given number of days after
its beginning, `month` being the number of the first listed month. -/
def monthAndDay (month : Nat) : List Nat -> Nat -> Nat × Nat
  | [], days => (month, days + 1)
  | length :: lengths, days =>
      if days < length then (month, days + 1)
      else monthAndDay (month + 1) lengths (days - length)

/-- The year, month and day that lie the given number of days after the
beginning of a year. -/
def dateAfter (year : Int) (days : Nat) : Int × Nat × Nat :=
  if days < yearLength year then
    (year, monthAndDay 1 (monthLengths year) days)
  else
    dateAfter (year + 1) (days - yearLength year)
termination_by days
decreasing_by
  have := yearLength_pos year
  omega

/-- Write a number with at least the given count of digits. -/
def padded (width value : Nat) : String :=
  let digits := toString value
  String.ofList (List.replicate (width - digits.length) '0') ++ digits

/-- A year of four digits stands alone; any other carries its sign. -/
def yearText (year : Int) : String :=
  if 0 ≤ year ∧ year ≤ 9999 then padded 4 year.toNat
  else if 0 ≤ year then "+" ++ padded 4 year.toNat
  else "-" ++ padded 4 (-year).toNat

/-- The date, a space, the time of day, and the milliseconds unless they are
zero. A leap second counts as second 60. -/
def text (moment : DateTime) : String :=
  let leap := moment.millisecond / 1000
  let millisecond := moment.millisecond % 1000
  yearText moment.year ++ "-" ++ padded 2 moment.month
    ++ "-" ++ padded 2 moment.day
    ++ " " ++ padded 2 moment.hour ++ ":" ++ padded 2 moment.minute
    ++ ":" ++ padded 2 (moment.second + leap)
    ++ if millisecond = 0 then "" else "." ++ padded 3 millisecond

end DateTime
end PlcLink
