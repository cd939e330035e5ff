/-!
# Labels

A label with letters beyond ASCII is written as its ASCII letters, and behind them digits that tell
which other letters stand where: letter by letter in ascending order, each by its distance from the
one before.
-/

namespace ScanClient.Http

def isAscii (c : Char) : Bool := c.toNat < 0x80

/-- What stands before a label that is written with digits for other letters. -/
def labelMark : List Char := "xn--".toList

/-! ## Distances -/

/-- A digit in base 36: first the letters, then the figures. -/
def labelDigit (d : Nat) : Char := Char.ofNat (if d < 26 then 'a'.toNat + d else '0'.toNat + d - 26)

/-- The value from which the digit at a position goes on to a further digit. -/
def threshold (bias position : Nat) : Nat := max 1 (min 26 (position - bias))

theorem threshold_pos (bias position : Nat) : 0 < threshold bias position := by
  unfold threshold
  omega

/-- A distance as digits; the last is the only one below its threshold. -/
def distanceDigits (bias position distance : Nat) : List Char :=
  let t := threshold bias position
  if distance < t then [labelDigit distance]
  else
    labelDigit (t + (distance - t) % (36 - t)) ::
      distanceDigits bias (position + 36) ((distance - t) / (36 - t))
termination_by distance
decreasing_by
  have := threshold_pos bias position
  have := Nat.div_le_self (distance - threshold bias position) (36 - threshold bias position)
  omega

/-- The positions that a large distance is expected to take, and what is left of it. -/
def expected (distance positions : Nat) : Nat × Nat :=
  if 455 < distance then expected (distance / 35) (positions + 36) else (distance, positions)
termination_by distance
decreasing_by exact Nat.div_lt_self (by omega) (by omega)

/-- The bias after a distance, which fits the next ones if they are about as large. -/
def nextBias (distance count : Nat) (first : Bool) : Nat :=
  let damped := if first then distance / 700 else distance / 2
  let (rest, positions) := expected (damped + damped / count) 0
  positions + 36 * rest / (rest + 38)

/-! ## Writing -/

/-- The letters beyond ASCII in ascending order, with their positions in the label. -/
def insertions (label : List Char) : List (Char × Nat) :=
  (label.zipIdx.filter fun (c, _) => !isAscii c).mergeSort fun a b => a.1 ≤ b.1

/-- A label that is being written: its digits so far, and what the next distance counts from. -/
structure LabelWriting where
  digits : List Char
  /-- The letter that was inserted last. -/
  least : Nat
  /-- The place behind it. -/
  origin : Nat
  /-- Where the next letter can be inserted. -/
  places : Nat
  bias : Nat

/-- Writes a letter of a label that stands at a position. The letters before it that are there by
then are its place; each letter between it and the one inserted last would have had all places. -/
def LabelWriting.add (label : List Char) (s : LabelWriting) (letter : Char × Nat) : LabelWriting :=
  let (c, position) := letter
  let place := ((label.take position).filter (· ≤ c)).length
  let distance := (c.toNat - s.least) * s.places + place - s.origin
  { digits := s.digits ++ distanceDigits s.bias 36 distance
    least := c.toNat
    origin := place + 1
    places := s.places + 1
    bias := nextBias distance s.places s.digits.isEmpty }

/-- A label with ASCII letters alone. -/
def asciiLabel (label : List Char) : List Char :=
  let basic := label.filter isAscii
  if basic.length = label.length then label
  else
    let start : LabelWriting := ⟨[], 0x80, 0, basic.length + 1, 72⟩
    let written := (insertions label).foldl (LabelWriting.add label) start
    labelMark ++ basic ++ (if basic.isEmpty then [] else ['-']) ++ written.digits

/-! ## Reading -/

/-- The value of a digit in base 36. -/
def labelDigitValue (c : Char) : Option Nat :=
  if c.isLower then some (c.toNat - 'a'.toNat)
  else if c.isDigit then some (c.toNat - '0'.toNat + 26)
  else none

/-- Distances go no further. -/
def maxDistance : Nat := 4294967295

/-- A label that is being read. -/
structure LabelReading where
  letters : List Char
  /-- The least letter that may come. -/
  least : Nat
  /-- Where the last distance ended. -/
  origin : Nat
  /-- Where the next distance ends, as far as its digits have been read. -/
  index : Nat
  /-- What the next digit counts. -/
  weight : Nat
  position : Nat
  bias : Nat

namespace LabelReading

def begin (basic : List Char) : LabelReading := ⟨basic, 0x80, 0, 0, 1, 36, 72⟩

/-- Inserts the letter whose distance has been read. The places run through the label once for each
letter in between that does not come. -/
def insert (s : LabelReading) : Option LabelReading :=
  let places := s.letters.length + 1
  let code := s.least + s.index / places
  let place := s.index % places
  if code.isValidChar then
    some
      { letters := s.letters.take place ++ Char.ofNat code :: s.letters.drop place
        least := code
        origin := place + 1
        index := place + 1
        weight := 1
        position := 36
        bias := nextBias (s.index - s.origin) places (s.origin == 0) }
  else none

def step (s : LabelReading) (c : Char) : Option LabelReading := do
  let digit ← labelDigitValue c
  let t := threshold s.bias s.position
  let s := { s with index := s.index + digit * s.weight }
  let weight := s.weight * (36 - t)
  if maxDistance < s.index then none
  else if digit < t then s.insert
  else if maxDistance < weight then none
  else some { s with weight, position := s.position + 36 }

/-- Whether no distance is left half read. -/
def isDone (s : LabelReading) : Bool := s.position == 36

end LabelReading

/-- The letters of a label from its ASCII letters and digits, which the last dash parts. -/
def readLabel (text : List Char) : Option (List Char) := do
  let digits := (text.reverse.takeWhile (· != '-')).reverse
  let basic := text.take (text.length - digits.length - 1)
  let state ← (if basic.isEmpty then text else digits).foldlM LabelReading.step (.begin basic)
  if state.isDone then some state.letters else none

end ScanClient.Http
