import ScanClient.Calendar.Date

/-!
# Instants

Points in time to the nanosecond. A leap second is told by nanoseconds beyond a second: it lasts
on in the second before it.
-/

namespace ScanClient.Calendar

/-- A time of day as it is written; second 60 is a leap second. -/
structure TimeOfDay where
  hour : Nat
  minute : Nat
  second : Nat
  nanos : Nat
  deriving DecidableEq, Repr, Inhabited

structure Instant where
  /-- Seconds since the beginning of 1970 in UTC. -/
  seconds : Int
  nanos : Nat
  deriving DecidableEq, Repr, Inhabited

def nanosPerSecond : Nat := 1000000000

def secondsPerDay : Int := 86400

namespace Instant

/-- The instant of a date and time that is `offset` seconds ahead of UTC. -/
def ofCivil (d : Date) (t : TimeOfDay) (offset : Int) : Instant :=
  let leap := t.second = 60
  let second := if leap then 59 else t.second
  { seconds := d.number * secondsPerDay + (t.hour * 3600 + t.minute * 60 + second : Nat) - offset
    nanos := if leap then nanosPerSecond + t.nanos else t.nanos }

def date (i : Instant) : Date := .ofNumber (i.seconds / secondsPerDay)

def time (i : Instant) : TimeOfDay :=
  let n := (i.seconds % secondsPerDay).toNat
  { hour := n / 3600
    minute := n / 60 % 60
    second := n % 60 + i.nanos / nanosPerSecond
    nanos := i.nanos % nanosPerSecond }

/-- Whether the date of an instant in UTC is one of the calendar. -/
def inRange (i : Instant) : Bool := minYear ≤ i.date.year && i.date.year ≤ maxYear

end Instant

end ScanClient.Calendar
