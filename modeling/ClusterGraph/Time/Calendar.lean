/-!
# The civil calendar

Dates of the proleptic Gregorian calendar as numbers of days from 1 January 1970, and back. The
computation counts years from 1 March, so that the leap day is the last day of its year, in cycles
of 400 years of 146097 days.
-/
namespace ClusterGraph.Time

/-- A year, a month from 1 and a day from 1. -/
structure Date where
  year : Int
  month : Nat
  day : Nat
  deriving DecidableEq, Repr

/-- Every fourth year has a leap day, but of the centuries only every fourth. -/
def isLeapYear (year : Int) : Bool :=
  year % 4 = 0 && (year % 100 != 0 || year % 400 = 0)

def daysInMonth (year : Int) (month : Nat) : Nat :=
  if month = 2 then (if isLeapYear year then 29 else 28)
  else if month = 4 || month = 6 || month = 9 || month = 11 then 30
  else 31

/-- The first and the last year in which instants can lie. -/
def firstYear : Int := -262143

@[inherit_doc firstYear]
def lastYear : Int := 262142

namespace Date

/-- The date exists and lies in the years of instants. -/
def isValid (d : Date) : Bool :=
  firstYear ≤ d.year && d.year ≤ lastYear && 1 ≤ d.month && d.month ≤ 12 && 1 ≤ d.day
    && d.day ≤ daysInMonth d.year d.month

def toDays (d : Date) : Int :=
  let y : Int := if d.month ≤ 2 then d.year - 1 else d.year
  let era : Int := y / 400
  let yearOfEra : Int := y % 400
  let monthFromMarch : Int := ((d.month : Int) + 9) % 12
  let dayOfYear : Int := (153 * monthFromMarch + 2) / 5 + (d.day : Int) - 1
  let dayOfEra : Int := yearOfEra * 365 + yearOfEra / 4 - yearOfEra / 100 + dayOfYear
  era * 146097 + dayOfEra - 719468

def ofDays (days : Int) : Date :=
  let z : Int := days + 719468
  let era : Int := z / 146097
  let dayOfEra : Int := z % 146097
  let yearOfEra : Int :=
    (dayOfEra - dayOfEra / 1460 + dayOfEra / 36524 - dayOfEra / 146096) / 365
  let dayOfYear : Int := dayOfEra - (365 * yearOfEra + yearOfEra / 4 - yearOfEra / 100)
  let monthFromMarch : Int := (5 * dayOfYear + 2) / 153
  let day : Int := dayOfYear - (153 * monthFromMarch + 2) / 5 + 1
  let month : Int := if monthFromMarch < 10 then monthFromMarch + 3 else monthFromMarch - 9
  let year : Int := yearOfEra + era * 400 + (if month ≤ 2 then 1 else 0)
  ⟨year, month.toNat, day.toNat⟩

end Date
end ClusterGraph.Time
