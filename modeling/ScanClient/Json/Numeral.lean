import ScanClient.Json.Reading

/-!
# Reading numbers

First the parts of a numeral, then its value. An integer that fits 64 bits is exact. Anything else
is the double of the leading digits that fit 64 bits, scaled by a rounded power of ten, so the last
bit may differ from that of the nearest double.
-/

namespace ScanClient.Json

structure Numeral where
  negative : Bool
  whole : List Char
  /-- The digits behind the point, of which there is at least one if there is a point. -/
  fraction : List Char
  /-- Whether the exponent has a minus sign, and its digits. -/
  exponent : Option (Bool × List Char)

/-- The digits at the beginning, and what follows them. -/
def readDigits (s : List Char) : List Char × Tail s :=
  (s.takeWhile Char.isDigit,
    ⟨s.dropWhile Char.isDigit, (List.dropWhile_sublist Char.isDigit).length_le⟩)

def startsWithDigit : List Char → Bool
  | [] => false
  | c :: _ => c.isDigit

/-- The digits before the point: a zero alone, or digits not beginning with zero. -/
def readWhole (atEnd : Cause) : Reader (List Char)
  | [] => .error (.behind atEnd [])
  | c :: rest =>
    if c = '0' then
      if startsWithDigit rest then .error (.ahead .badNumber rest)
      else .ok (.single ['0'] c rest)
    else if c.isDigit then
      let (ds, t) := readDigits rest
      .ok (t.asRead (c :: ds) c)
    else .error (.ahead .badNumber (c :: rest))

/-- A point and its digits, if there is a point. -/
def readFraction (atEnd : Cause) (s : List Char) : Except Fault (List Char × Tail s) :=
  match s with
  | '.' :: rest =>
    match readDigits rest with
    | ([], _) => .error (if rest.isEmpty then .behind atEnd [] else .ahead .badNumber rest)
    | (ds, t) => .ok (ds, t.behind '.')
  | s => .ok ([], .whole s)

def readSign (s : List Char) : Bool × Tail s :=
  match s with
  | '+' :: rest => (false, (Tail.whole rest).behind '+')
  | '-' :: rest => (true, (Tail.whole rest).behind '-')
  | s => (false, .whole s)

/-- The digits of an exponent, of which there is at least one. -/
def readExponentDigits (atEnd : Cause) (s : List Char) : Except Fault (List Char × Tail s) :=
  match readDigits s with
  | ([], _) => .error (if s.isEmpty then .behind atEnd [] else .ahead .badNumber s)
  | found => .ok found

/-- An exponent, if there is one. -/
def readExponent (atEnd : Cause) (s : List Char) :
    Except Fault (Option (Bool × List Char) × Tail s) :=
  match s with
  | [] => .ok (none, .whole [])
  | c :: rest =>
    if c = 'e' ∨ c = 'E' then
      let (negative, t) := readSign rest
      (readExponentDigits atEnd t.rest).map fun (ds, u) =>
        (some (negative, ds), (t.follow u).behind c)
    else .ok (none, .whole (c :: rest))

/-- What follows the sign of a numeral. -/
def readUnsigned (atEnd : Cause) (negative : Bool) : Reader Numeral := fun s =>
  match readWhole atEnd s with
  | .error e => .error e
  | .ok whole =>
    match readFraction atEnd whole.rest with
    | .error e => .error e
    | .ok (fraction, t) =>
      match readExponent atEnd t.rest with
      | .error e => .error e
      | .ok (exponent, u) =>
        .ok (whole.close ⟨negative, whole.value, fraction, exponent⟩ (t.follow u))

/-- A numeral; a text that ends before the numeral does ends in `atEnd`. -/
def readNumeral (atEnd : Cause) : Reader Numeral
  | '-' :: rest => behindChar (readUnsigned atEnd true) '-' rest
  | s => readUnsigned atEnd false s

def digitValue (c : Char) : Nat := c.toNat - '0'.toNat

/-- Appends digits to a number while it stays within a limit, and gives the digits left over. -/
def absorb (limit n : Nat) : List Char → Nat × List Char
  | [] => (n, [])
  | c :: rest =>
    if n * 10 + digitValue c ≤ limit then absorb limit (n * 10 + digitValue c) rest
    else (n, c :: rest)

def maxSignificand : Nat := Nat.pow 2 64 - 1

def maxExponent : Nat := Nat.pow 2 31 - 1

/-- A double scaled by a power of ten in one operation where that power is a double, or else down in
steps. There is no result beyond the largest double. -/
def scale (x : Double) (e : Int) : Option Double :=
  if 0 ≤ e then
    if e ≤ 308 then
      let y := Double.mul x (Double.powerOfTen e.toNat)
      if y.isInfinite then none else some y
    else if x.isZero then some x
    else none
  else if -308 ≤ e then some (Double.div x (Double.powerOfTen (-e).toNat))
  else if x.isZero then some x
  else scale (Double.div x (Double.powerOfTen 308)) (e + 308)
termination_by (-e).toNat

/-- An integer, unless it does not fit or is a negative zero. -/
def integerOf (negative : Bool) (n : Nat) : Number :=
  if !negative then .integer n
  else if n = 0 ∨ Nat.pow 2 63 < n then .double (Double.ofNat n).neg
  else .integer (-n)

def signed (negative : Bool) (x : Double) : Number := .double (if negative then x.neg else x)

/-- The value of a numeral that `rest` follows. An exponent too long to be counted is out of range
at the digit where it became so, unless it makes zero. -/
def Numeral.value (n : Numeral) (rest : List Char) : Except Fault Number :=
  let (whole, extra) := absorb maxSignificand 0 n.whole
  if n.fraction.isEmpty ∧ n.exponent.isNone ∧ extra.isEmpty then .ok (integerOf n.negative whole)
  else
    let (significand, dropped) := absorb maxSignificand whole n.fraction
    let start : Int := extra.length + dropped.length - n.fraction.length
    let scaled (e : Int) : Except Fault Number :=
      match scale (.ofNat significand) e with
      | some x => .ok (signed n.negative x)
      | none => .error (.behind .numberTooLarge rest)
    match n.exponent with
    | none => scaled start
    | some (down, ds) =>
      match absorb maxExponent 0 ds with
      | (e, []) => scaled (if down then start - e else start + e)
      | (_, left) =>
        if significand ≠ 0 ∧ !down then .error (.behind .numberTooLarge (left.drop 1 ++ rest))
        else .ok (signed n.negative Double.zero)

def readNumber : Reader Number := fun s =>
  match readNumeral .endInValue s with
  | .error e => .error e
  | .ok r => (r.value.value r.rest).map fun n => r.map fun _ => n

end ScanClient.Json
