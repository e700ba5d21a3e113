import Overdue.Calendar.Date

/-!
# Days as numbers

The number of a day, counted from the first of January 1970, and the date of a point in time that
is given in seconds since the start of that day.
-/

namespace Overdue

/-- The days from the start of year 0 to the start of the given year. -/
def daysBeforeYear (year : Int) : Int :=
  365 * year + (year + 3) / 4 - (year + 99) / 100 + (year + 399) / 400

/-- The year of the `n`-th day, counted from 0 at the start of year 0. The quotient by the mean
length of a year is that year or the one after it. -/
def yearOfDay (n : Int) : Int :=
  let year := 400 * (n + 1) / 146097
  if daysBeforeYear year ≤ n then year else year - 1

/-- The days of a stretch of months with the given lengths. -/
def totalDays : List Nat → Nat
  | [] => 0
  | len :: rest => len + totalDays rest

/-- The month and the day of the month, both from 1, of the `n`-th day of a stretch of months with
the given lengths, counted from 0. -/
def monthAndDay : List Nat → Nat → Nat × Nat
  | [], n => (1, n + 1)
  | len :: rest, n =>
    if n < len then (1, n + 1)
    else
      let (month, day) := monthAndDay rest (n - len)
      (month + 1, day)

/-- The days from the start of year 0 to the first of January 1970. -/
def daysBeforeEpoch : Int := 719528

namespace Date

/-- The number of the day, with 0 for the first of January 1970. -/
def dayNumber (d : Date) : Int :=
  daysBeforeYear d.year + totalDays ((monthLengths d.year).take (d.month - 1)) + d.day - 1 -
    daysBeforeEpoch

/-- The date of a day number, unless its year is out of range. -/
def ofDayNumber? (n : Int) : Option Date :=
  let k := n + daysBeforeEpoch
  let year := yearOfDay k
  let (month, day) := monthAndDay (monthLengths year) (k - daysBeforeYear year).toNat
  ofYmd? year month day

/-- The day in UTC that a time lies in, given in seconds since the start of 1970, unless its year
is out of range. -/
def ofTimestamp? (seconds : Int) : Option Date :=
  ofDayNumber? (seconds / 86400)

end Date

end Overdue
