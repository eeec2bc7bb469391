import RunQuery.Calendar
import RunQuery.Decimal.Basic

/-!
# Instants

Points in time to the nanosecond, on the calendar of coordinated universal time.

## Leap seconds

A leap second lasts from the end of a minute to the end of its sixty-first second. It is held as
that minute's last second with a fraction of one second or more, which keeps all other instants
where they would be without it.
-/

namespace RunQuery

def nanosPerSecond : Nat := 1000000000

/-- A point in time. -/
structure Instant where
  /-- The number of the day. -/
  day : Int
  /-- The seconds of the day. -/
  second : Nat
  /-- The nanoseconds of the second. -/
  nano : Nat
  /-- The second lies in the day. -/
  second_lt : second < 86400
  /-- The fraction lies in the second or in the leap second after it. -/
  nano_lt : nano < 2 * nanosPerSecond
  /-- Leap seconds come at the end of a minute. -/
  leap : nanosPerSecond ≤ nano → second % 60 = 59
  deriving DecidableEq

namespace Instant

/-! ## Text -/

/-- The text of a year: four digits, and a sign and at least four digits outside of 0 to 9999. -/
def yearText (year : Int) : List Char :=
  if 0 ≤ year ∧ year ≤ 9999 then Decimal.padded 4 year.toNat
  else (if year < 0 then '-' else '+') :: Decimal.padded (if year < 0 then 4 else 5) year.natAbs

/-- The text of an instant, in universal time and cut to milliseconds. A leap second is the
sixtieth of its minute. -/
def text (i : Instant) : String :=
  let date := Date.ofNumber i.day
  let sixtieth := if nanosPerSecond ≤ i.nano then 1 else 0
  String.ofList <|
    yearText date.year ++ '-' :: Decimal.padded 2 date.month ++ '-' :: Decimal.padded 2 date.day ++
      'T' :: Decimal.padded 2 (i.second / 3600) ++
      ':' :: Decimal.padded 2 (i.second / 60 % 60) ++
      ':' :: Decimal.padded 2 (i.second % 60 + sixtieth) ++
      '.' :: Decimal.padded 3 (i.nano % nanosPerSecond / 1000000) ++ ['Z']

/-! ## Durations -/

/-- The nanoseconds from `earlier` to `i`. A leap second counts if the time of day passes over
it. -/
def nanosSince (i earlier : Instant) : Int :=
  let passed : Int :=
    if earlier.second < i.second then (if nanosPerSecond ≤ earlier.nano then 1 else 0)
    else if i.second < earlier.second then (if nanosPerSecond ≤ i.nano then -1 else 0)
    else 0
  ((i.day - earlier.day) * 86400 + ((i.second : Int) - earlier.second) + passed) * nanosPerSecond +
    ((i.nano : Int) - earlier.nano)

/-- The whole milliseconds from `earlier` to `i`, parts of one dropped. -/
def millisSince (i earlier : Instant) : Int := (i.nanosSince earlier).tdiv 1000000

end Instant

end RunQuery
