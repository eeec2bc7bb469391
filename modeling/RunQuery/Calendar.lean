/-!
# Calendar dates

Dates of the proleptic Gregorian calendar, with a year zero and negative years, and their numbers:
the days from the first of January 1970 on.
-/

namespace RunQuery

/-- A day of the calendar. -/
structure Date where
  /-- The year. -/
  year : Int
  /-- The month, from 1 on. -/
  month : Nat
  /-- The day of the month, from 1 on. -/
  day : Nat
  deriving DecidableEq, Repr

namespace Date

/-- Does the year have a twenty-ninth of February? -/
def isLeap (year : Int) : Bool := year % 4 == 0 && (year % 100 != 0 || year % 400 == 0)

/-- The days of the year before the month, for months up to a thirteenth one, which begins the next
year. -/
def daysBeforeMonth (leap : Bool) (month : Nat) : Nat :=
  let days := [0, 0, 31, 59, 90, 120, 151, 181, 212, 243, 273, 304, 334, 365][month]?.getD 365
  if leap && 2 < month then days + 1 else days

def daysInMonth (leap : Bool) (month : Nat) : Nat :=
  daysBeforeMonth leap (month + 1) - daysBeforeMonth leap month

def isValid (d : Date) : Bool :=
  1 ≤ d.month && d.month ≤ 12 && 1 ≤ d.day && d.day ≤ daysInMonth (isLeap d.year) d.month

/-- The number of the first of January of a year. The divisions round down, for years before the
first one too. -/
def yearStart (year : Int) : Int :=
  let before := year - 1
  -- 719162 days lie between the first of January of the year 1 and that of 1970
  365 * before + before / 4 - before / 100 + before / 400 - 719162

def toNumber (d : Date) : Int :=
  yearStart d.year + daysBeforeMonth (isLeap d.year) d.month + d.day - 1

/-- The year in which a day lies. A year has 146097 / 400 days on average, which finds it up to one
year. -/
def yearOfNumber (n : Int) : Int :=
  let guess := (n + 719162) * 400 / 146097 + 1
  if n < yearStart guess then guess - 1
  else if yearStart (guess + 1) ≤ n then guess + 1
  else guess

/-- The last month up to `month` that does not begin after the given day of the year. -/
def monthOfDay (leap : Bool) (dayOfYear : Nat) : (month : Nat) → Nat
  | 0 => 0
  | month + 1 =>
    if daysBeforeMonth leap (month + 1) ≤ dayOfYear then month + 1
    else monthOfDay leap dayOfYear month

def ofNumber (n : Int) : Date :=
  let year := yearOfNumber n
  let leap := isLeap year
  let dayOfYear := (n - yearStart year).toNat
  let month := monthOfDay leap dayOfYear 12
  ⟨year, month, dayOfYear - daysBeforeMonth leap month + 1⟩

end Date

end RunQuery
