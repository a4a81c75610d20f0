/-!
# The proleptic Gregorian calendar

Dates are numbered by days, with day zero on 1 January 1970. The number of a date counts the days
of the years before it, of the months before it and of its own month.
-/

namespace ListenQuery

structure Date where
  year : Int
  month : Nat
  day : Nat
  deriving DecidableEq, Repr

namespace Date

def isLeap (year : Int) : Bool := year % 4 = 0 && (year % 100 ≠ 0 || year % 400 = 0)

def monthLengths (leap : Bool) : List Nat :=
  [31, if leap then 29 else 28, 31, 30, 31, 30, 31, 31, 30, 31, 30, 31]

def monthLength (leap : Bool) (month : Nat) : Nat := (monthLengths leap).getD (month - 1) 0

def isValid (d : Date) : Bool :=
  1 ≤ d.month && d.month ≤ 12 && 1 ≤ d.day && d.day ≤ monthLength (isLeap d.year) d.month

/-- The days from 1 January of the year 1 to 1 January of `year`. -/
def daysBeforeYear (year : Int) : Int :=
  let y := year - 1
  365 * y + y / 4 - y / 100 + y / 400

def daysBeforeMonth (leap : Bool) (month : Nat) : Nat :=
  ((monthLengths leap).take (month - 1)).foldr (· + ·) 0

/-- The day number of 1 January 1970, counted from 1 January of the year 1. -/
def epochDay : Int := 719162

def dayNumber (d : Date) : Int :=
  daysBeforeYear d.year + daysBeforeMonth (isLeap d.year) d.month + (d.day - 1) - epochDay

/-- The month and the day of the day `n` of a year, from the lengths of the months left. -/
def monthAndDay : Nat → List Nat → Nat → Nat × Nat
  | month, [], n => (month, n + 1)
  | month, length :: rest, n =>
    if n < length then (month, n + 1) else monthAndDay (month + 1) rest (n - length)

/-- The year of a day counted from 1 January of the year 1, and the day within it. -/
def yearAndDay (n : Int) : Int × Nat :=
  let cycles := n / 146097
  let inCycle := n % 146097
  let centuries := min (inCycle / 36524) 3
  let inCentury := inCycle - 36524 * centuries
  let fours := inCentury / 1461
  let inFour := inCentury % 1461
  let years := min (inFour / 365) 3
  (400 * cycles + 100 * centuries + 4 * fours + years + 1, (inFour - 365 * years).toNat)

def ofDayNumber (n : Int) : Date :=
  let (year, n) := yearAndDay (n + epochDay)
  let (month, day) := monthAndDay 1 (monthLengths (isLeap year)) n
  ⟨year, month, day⟩

/-- The years that dates are kept for. -/
def firstYear : Int := -262143

def lastYear : Int := 262142

end Date

end ListenQuery
