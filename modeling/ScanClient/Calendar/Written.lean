import ScanClient.Calendar.Instant

/-!
# Writing instants

Instants are written in UTC. The fraction has as few of three, six and nine digits as hold it.
-/

namespace ScanClient.Calendar

/-- A number with zeros in front of it up to a width. -/
def padded (width n : Nat) : List Char :=
  let ds := Nat.toDigits 10 n
  List.replicate (width - ds.length) '0' ++ ds

/-- A year of four digits, or with a sign and at least four digits. -/
def yearChars (year : Int) : List Char :=
  if year < 0 then '-' :: padded 4 year.natAbs
  else if 9999 < year then '+' :: padded 4 year.natAbs
  else padded 4 year.natAbs

def dateChars (d : Date) : List Char :=
  yearChars d.year ++ '-' :: padded 2 d.month ++ '-' :: padded 2 d.day

def clockChars (t : TimeOfDay) : List Char :=
  padded 2 t.hour ++ ':' :: padded 2 t.minute ++ ':' :: padded 2 t.second

def fractionChars (nanos : Nat) : List Char :=
  if nanos = 0 then []
  else if nanos % 1000000 = 0 then '.' :: padded 3 (nanos / 1000000)
  else if nanos % 1000 = 0 then '.' :: padded 6 (nanos / 1000)
  else '.' :: padded 9 nanos

namespace Instant

/-- The instant as a record holds it, such as `2025-07-24T10:00:00.250Z`. -/
def written (i : Instant) : String :=
  String.ofList
    (dateChars i.date ++ 'T' :: clockChars i.time ++ fractionChars i.time.nanos ++ ['Z'])

/-- The instant as a report shows it, such as `2025-07-24 10:00:00 UTC`. -/
def shown (i : Instant) : String :=
  String.ofList (dateChars i.date ++ ' ' :: clockChars i.time ++ " UTC".toList)

end Instant

end ScanClient.Calendar
