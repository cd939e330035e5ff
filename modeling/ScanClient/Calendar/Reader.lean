import ScanClient.Calendar.Instant
import ScanClient.Text.Blank
import ScanClient.Text.Utf8

/-!
# Reading instants

Three forms of a date and time are read. The exact form has every digit and an offset. The local
form has no offset and is taken as UTC; its numbers may be shorter and stand after blanks. The free
form is local and has an offset, with blanks allowed in more places. Only the free form tells why a
text is refused.
-/

namespace ScanClient.Calendar

inductive DateFault where
  | tooShort
  | invalid
  | outOfRange
  | trailing
  | impossible
  deriving DecidableEq, Repr

def DateFault.message : DateFault → String
  | .tooShort => "premature end of input"
  | .invalid => "input contains invalid characters"
  | .outOfRange => "input is out of range"
  | .trailing => "trailing input"
  | .impossible => "no possible date and time matching input"

def trimStart (s : List Char) : List Char := s.dropWhile Text.isBlank

def decimalValue (ds : List Char) : Nat := Nat.ofDigitChars 10 ds 0

/-- Digits, at least one and at most `width` of them where there is a width. -/
def readDecimal (width : Option Nat) (s : List Char) : Except DateFault (Nat × List Char) :=
  let ds := s.takeWhile Char.isDigit
  let ds := match width with
    | some n => ds.take n
    | none => ds
  if s.isEmpty then .error .tooShort
  else if ds.isEmpty then .error .invalid
  else if Nat.pow 2 63 ≤ decimalValue ds then .error .outOfRange
  else .ok (decimalValue ds, s.drop ds.length)

/-- A year: at most four digits, or a sign and any number of digits. -/
def readYear (s : List Char) : Except DateFault (Int × List Char) := do
  let (year, rest) ← match trimStart s with
    | '-' :: rest => do
      let (n, rest) ← readDecimal none rest
      pure (-(n : Int), rest)
    | '+' :: rest => do
      let (n, rest) ← readDecimal none rest
      pure ((n : Int), rest)
    | s => do
      let (n, rest) ← readDecimal (some 4) s
      pure ((n : Int), rest)
  if year < -2147483648 ∨ 2147483647 < year then .error .outOfRange else .ok (year, rest)

/-- A number of at most two digits within bounds, after blanks. -/
def readPart (low high : Nat) (s : List Char) : Except DateFault (Nat × List Char) := do
  let (n, rest) ← readDecimal (some 2) (trimStart s)
  if n < low ∨ high < n then .error .outOfRange else .ok (n, rest)

def readLiteral (c : Char) : List Char → Except DateFault (List Char)
  | [] => .error .tooShort
  | d :: rest => if d = c then .ok rest else .error .invalid

/-- The digits behind a point as nanoseconds, those beyond the ninth not counting. -/
def nanosOf (ds : List Char) : Nat :=
  let counted := ds.take 9
  decimalValue counted * Nat.pow 10 (9 - counted.length)

/-- A point and digits, or nothing, which is no nanoseconds. -/
def readFraction : List Char → Except DateFault (Nat × List Char)
  | '.' :: rest =>
    let ds := rest.takeWhile Char.isDigit
    if rest.isEmpty then .error .tooShort
    else if ds.isEmpty then .error .invalid
    else .ok (nanosOf ds, rest.dropWhile Char.isDigit)
  | s => .ok (0, s)

/-- Numbers of a date, with what may stand before the separators given by `gap`. -/
def readDate (gap : List Char → List Char) (s : List Char) :
    Except DateFault (Date × List Char) := do
  let (year, s) ← readYear s
  let s ← readLiteral '-' (gap s)
  let (month, s) ← readPart 1 12 s
  let s ← readLiteral '-' (gap s)
  let (day, s) ← readPart 1 31 s
  pure ({ year, month, day }, s)

def readTime (gap : List Char → List Char) (s : List Char) :
    Except DateFault (TimeOfDay × List Char) := do
  let (hour, s) ← readPart 0 23 s
  let s ← readLiteral ':' (gap s)
  let (minute, s) ← readPart 0 59 s
  let s ← readLiteral ':' (gap s)
  let (second, s) ← readPart 0 60 s
  let (nanos, s) ← readFraction s
  pure ({ hour, minute, second, nanos }, s)

/-- A date and time without an offset, such as `2025-07-24T10:00:00.25`, taken as UTC. -/
def readLocal (s : List Char) : Except DateFault Instant := do
  let (d, s) ← readDate id s
  let s ← readLiteral 'T' s
  let (t, s) ← readTime id s
  if !s.isEmpty then .error .trailing
  else if !d.exists then .error .outOfRange
  else .ok (.ofCivil d t 0)

/-- The minus sign of an offset may be the hyphen or the mathematical one. -/
def isMinus (c : Char) : Bool := c == '-' || c == '\u2212'

def isSeparator (c : Char) : Bool := c == ':' || Text.isBlank c

/-- Two digits; fewer bytes than two are too few, whatever they are. -/
def readPair (s : List Char) : Except DateFault ((Nat × Nat) × List Char) :=
  if Text.Utf8.size s < 2 then .error .tooShort
  else
    match s with
    | a :: b :: rest =>
      if a.isDigit ∧ b.isDigit then .ok ((decimalValue [a], decimalValue [b]), rest)
      else .error .invalid
    | _ => .error .invalid

/-- An offset in seconds: a letter for none, or a sign, hours and minutes. -/
def readOffset : List Char → Except DateFault (Int × List Char)
  | [] => .error .tooShort
  | c :: rest =>
    if c = 'Z' ∨ c = 'z' then .ok (0, rest)
    else if c = '+' ∨ isMinus c then do
      let ((h, h'), rest) ← readPair rest
      let ((m, m'), rest) ← readPair (rest.dropWhile isSeparator)
      if 6 ≤ m then .error .outOfRange
      else
        let offset : Int := (h * 10 + h' : Nat) * 3600 + (m * 10 + m' : Nat) * 60
        .ok (if c = '+' then offset else -offset, rest)
    else .error .invalid

/-- The name of UTC in any case, or an offset. -/
def readZone : List Char → Except DateFault (Int × List Char)
  | a :: b :: c :: rest =>
    if a.toLower = 'u' ∧ b.toLower = 't' ∧ c.toLower = 'c' then .ok (0, rest)
    else readOffset (a :: b :: c :: rest)
  | s => readOffset s

/-- A date and time with an offset in the free form. -/
def readFree (s : List Char) : Except DateFault Instant := do
  let (d, s) ← readDate trimStart s
  let s ← match s with
    | [] => .error .tooShort
    | c :: rest => if c = 'T' ∨ c = 't' ∨ c = ' ' then .ok rest else .error .invalid
  let (t, s) ← readTime trimStart s
  let (offset, s) ← readZone (trimStart s)
  if !(trimStart s).isEmpty then .error .trailing
  else if !d.exists ∨ secondsPerDay ≤ offset.natAbs then .error .outOfRange
  else
    let i := Instant.ofCivil d t offset
    if i.inRange then .ok i else .error .impossible

/-- Exactly these digits, as many as asked for. -/
def exactDigits (count : Nat) (s : List Char) : Option (Nat × List Char) :=
  let ds := s.take count
  if ds.length = count ∧ ds.all Char.isDigit then some (decimalValue ds, s.drop count) else none

def exactChar (c : Char) : List Char → Option (List Char)
  | [] => none
  | d :: rest => if d = c then some rest else none

def exactDate (s : List Char) : Option (Date × List Char) := do
  let (year, s) ← exactDigits 4 s
  let s ← exactChar '-' s
  let (month, s) ← exactDigits 2 s
  let s ← exactChar '-' s
  let (day, s) ← exactDigits 2 s
  let d : Date := { year, month, day }
  if d.exists then some (d, s) else none

def exactTime (s : List Char) : Option (TimeOfDay × List Char) := do
  let (hour, s) ← exactDigits 2 s
  let s ← exactChar ':' s
  let (minute, s) ← exactDigits 2 s
  let s ← exactChar ':' s
  let (second, s) ← exactDigits 2 s
  let (nanos, s) ← (readFraction s).toOption
  if hour ≤ 23 ∧ minute ≤ 59 ∧ second ≤ 60 then some ({ hour, minute, second, nanos }, s) else none

/-- An offset in seconds that ends the text. -/
def exactOffset : List Char → Option Int
  | [] => none
  | c :: rest =>
    if c = 'Z' ∨ c = 'z' then if rest.isEmpty then some 0 else none
    else if c = '+' ∨ isMinus c then do
      let (hours, s) ← exactDigits 2 rest
      let s ← exactChar ':' s
      let (minutes, s) ← exactDigits 2 s
      let offset : Int := (hours * 3600 + minutes * 60 : Nat)
      if hours ≤ 23 ∧ minutes ≤ 59 ∧ s.isEmpty then some (if c = '+' then offset else -offset)
      else none
    else none

/-- A date and time with an offset in the exact form. -/
def readExact (s : List Char) : Option Instant := do
  let (d, s) ← exactDate s
  let s ← match s with
    | [] => none
    | c :: rest => if c = 'T' ∨ c = 't' ∨ c = ' ' then some rest else none
  let (t, s) ← exactTime s
  let offset ← exactOffset s
  some (.ofCivil d t offset)

/-- The date of a scan: the exact form, or else the local one. -/
def readScanDate (text : String) : Option Instant :=
  match readExact text.toList with
  | some i => some i
  | none => (readLocal text.toList).toOption

end ScanClient.Calendar
