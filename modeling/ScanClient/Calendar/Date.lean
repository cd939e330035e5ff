/-!
# Dates

Dates of the Gregorian calendar, carried on in both directions, and their numbers: the days since
the first of January 1970.
-/

namespace ScanClient.Calendar

structure Date where
  year : Int
  month : Nat
  day : Nat
  deriving DecidableEq, Repr, Inhabited

/-- The years that have dates. -/
def minYear : Int := -262143
def maxYear : Int := 262142

def isLeap (year : Int) : Bool := year % 4 == 0 && (year % 100 != 0 || year % 400 == 0)

def monthLengths (leap : Bool) : List Nat :=
  [31, if leap then 29 else 28, 31, 30, 31, 30, 31, 31, 30, 31, 30, 31]

def daysInMonth (year : Int) (month : Nat) : Nat :=
  if month = 0 then 0 else (monthLengths (isLeap year)).getD (month - 1) 0

def Date.exists (d : Date) : Bool :=
  minYear ≤ d.year && d.year ≤ maxYear && 1 ≤ d.day && d.day ≤ daysInMonth d.year d.month

/-- The days from the beginning of year 0 to the beginning of a year. -/
def daysBeforeYear (year : Int) : Int :=
  let before := year - 1
  365 * year + before / 4 - before / 100 + before / 400 + 1

def daysBeforeMonth (year : Int) (month : Nat) : Nat :=
  ((monthLengths (isLeap year)).take (month - 1)).foldl Nat.add 0

/-- The days from the beginning of year 0 to the first of January 1970. -/
def epochDays : Int := 719528

def Date.number (d : Date) : Int :=
  daysBeforeYear d.year + daysBeforeMonth d.year d.month + d.day - 1 - epochDays

/-- The year of a day counted from the beginning of year 0. A year is 146097/400 days long on
average, and no year begins as much as a year off that. -/
def yearOf (n : Int) : Int :=
  let guess := 400 * n / 146097
  if n < daysBeforeYear guess then guess - 1
  else if daysBeforeYear (guess + 1) ≤ n then guess + 1
  else guess

/-- The month and the day at a number of days into months of these lengths. -/
def splitMonths (month : Nat) : List Nat → Nat → Nat × Nat
  | [], n => (month, n + 1)
  | length :: lengths, n =>
    if n < length ∨ lengths.isEmpty then (month, n + 1)
    else splitMonths (month + 1) lengths (n - length)

def Date.ofNumber (number : Int) : Date :=
  let n := number + epochDays
  let year := yearOf n
  let (month, day) := splitMonths 1 (monthLengths (isLeap year)) (n - daysBeforeYear year).toNat
  { year, month, day }

end ScanClient.Calendar
