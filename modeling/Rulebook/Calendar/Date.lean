/-!
The calendar: years, months, days and weeks.

Days are numbered from the first day of the year 1, which was a Monday. A week belongs
to the year that holds its Thursday.
-/

namespace Rulebook.Calendar

def isLeap (year : Nat) : Bool :=
  year % 4 == 0 && (year % 100 != 0 || year % 400 == 0)

def daysInMonth (year month : Nat) : Nat :=
  if month = 2 then (if isLeap year then 29 else 28)
  else if month ∈ [4, 6, 9, 11] then 30
  else 31

/-- Years that dates can be in. -/
def isYear (year : Nat) : Bool := 1 ≤ year && year ≤ 9999

def isDate (year month day : Nat) : Bool :=
  isYear year && 1 ≤ month && month ≤ 12 && 1 ≤ day && day ≤ daysInMonth year month

def isTime (hour minute second : Nat) : Bool := hour < 24 && minute < 60 && second < 60

/-! ### Numbered days -/

def daysBeforeYear (year : Nat) : Nat :=
  let y := year - 1
  y * 365 + y / 4 - y / 100 + y / 400

def daysBeforeMonth (year : Nat) : Nat → Nat
  | 0 => 0
  | 1 => 0
  | month + 1 => daysBeforeMonth year month + daysInMonth year month

def dayNumber (year month day : Nat) : Nat :=
  daysBeforeYear year + daysBeforeMonth year month + day

/-- The number of the last day that a date can have. -/
def lastDayNumber : Nat := dayNumber 9999 12 31

/-- Days since Monday on the first day of a year. -/
def firstWeekday (year : Nat) : Nat := (dayNumber year 1 1 + 6) % 7

/-! ### Weeks -/

/-- A year has 53 weeks if it starts on a Thursday, or on a Wednesday and is a leap
year. -/
def hasLongYear (year : Nat) : Bool :=
  firstWeekday year == 3 || (firstWeekday year == 2 && isLeap year)

/-- The Monday of the first week of a year, which can lie in the year before. -/
def firstMonday (year : Nat) : Int :=
  let first : Int := dayNumber year 1 1
  let weekday : Int := firstWeekday year
  if 3 < weekday then first - weekday + 7 else first - weekday

def isWeekDate (year week day : Nat) : Bool :=
  let number := firstMonday year + (week - 1 : Nat) * 7 + (day - 1 : Nat)
  1 ≤ year && 1 ≤ week && (week ≤ 52 || (week == 53 && hasLongYear year))
    && 1 ≤ day && day ≤ 7 && decide (1 ≤ number ∧ number ≤ lastDayNumber)

/-! ### From numbered seconds -/

def monthAndDay (year : Nat) : Nat → Nat → Nat → Nat × Nat
  | 0, month, days => (month, days + 1)
  | left + 1, month, days =>
      if days < daysInMonth year month then (month, days + 1)
      else monthAndDay year left (month + 1) (days - daysInMonth year month)

/-- Counts whole years, 400 of which always have the same number of days. -/
def yearAndDays (days : Nat) : Nat × Nat :=
  let years := (days * 400) / 146097
  let year := if daysBeforeYear (years + 1) ≤ days then years + 1 else years
  let year := if daysBeforeYear (year + 1) ≤ days then year + 1 else year
  (year, days - daysBeforeYear year)

def ofDayNumber (number : Nat) : Nat × Nat × Nat :=
  let (year, days) := yearAndDays (number - 1)
  let (month, day) := monthAndDay year 12 1 days
  (year, month, day)

/-- The number of the first day of 1970. -/
def epochDay : Nat := dayNumber 1970 1 1

end Rulebook.Calendar
