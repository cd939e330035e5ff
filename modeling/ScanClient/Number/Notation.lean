import ScanClient.Number.Shortest

/-!
# How numbers are written

Decimal layouts of a double: with the fewest digits, positionally or with an exponent, or with one
decimal place.
-/

namespace ScanClient.Double

/-- The decisions of a layout with the fewest digits. -/
structure Layout where
  /-- Positional from this exponent of the leading digit on. -/
  plainFrom : Int
  /-- And below this one. -/
  plainBelow : Int
  /-- Whether an integral value ends in a point and a zero when written positionally. -/
  pointZero : Bool
  /-- Whether a positive exponent has a plus sign. -/
  signedExponent : Bool
  tie : Tie

/-- Numbers inside messages are always positional. -/
def Layout.message : Layout where
  plainFrom := -400
  plainBelow := 400
  pointZero := false
  signedExponent := false
  tie := .up

/-- Numbers in a log line. -/
def Layout.log : Layout where
  plainFrom := -4
  plainBelow := 16
  pointZero := true
  signedExponent := false
  tie := .up

/-- Numbers in a JSON text. -/
def Layout.json : Layout where
  plainFrom := -5
  plainBelow := 16
  pointZero := true
  signedExponent := true
  tie := .toEven

def digitChars (n : Nat) : List Char := Nat.toDigits 10 n

def zeros (n : Nat) : List Char := List.replicate n '0'

/-- The digits with the point after the first `point` of them, where `point` may lie outside. -/
def positional (pointZero : Bool) (ds : List Char) (point : Int) : List Char :=
  if point ≤ 0 then '0' :: '.' :: zeros (-point).toNat ++ ds
  else if point < ds.length then ds.take point.toNat ++ '.' :: ds.drop point.toNat
  else ds ++ zeros (point.toNat - ds.length) ++ (if pointZero then ['.', '0'] else [])

def withExponent (signed : Bool) (ds : List Char) (exponent : Int) : List Char :=
  let mantissa := match ds with
    | [] => []
    | [d] => [d]
    | d :: more => d :: '.' :: more
  let sign := if exponent < 0 then ['-'] else if signed then ['+'] else []
  mantissa ++ 'e' :: sign ++ digitChars exponent.natAbs

/-- The magnitude `m * 2 ^ e` in a layout. -/
def magnitude (l : Layout) (m : Nat) (e : Int) : List Char :=
  if m = 0 then '0' :: (if l.pointZero then ['.', '0'] else [])
  else
    let d := shortest l.tie m e
    let ds := digitChars d.digits
    let leading := d.exponent + ds.length - 1
    if l.plainFrom ≤ leading ∧ leading < l.plainBelow then positional l.pointZero ds (leading + 1)
    else withExponent l.signedExponent ds leading

def render (l : Layout) : Double → String
  | .notANumber => "NaN"
  | .infinite s => if s then "-inf" else "inf"
  | .finite s m e => String.ofList ((if s then ['-'] else []) ++ magnitude l m e)

/-- `m * 2 ^ e` in tenths, a half going to the even neighbour. -/
def tenths (m : Nat) (e : Int) : Nat :=
  nearestEven (m * 10 * Nat.pow 2 e.toNat) (Nat.pow 2 (-e).toNat)

/-- One decimal place, rounded from the exact value; a negative value keeps its sign even where it
rounds to zero. -/
def onePlace : Double → String
  | .notANumber => "NaN"
  | .infinite s => if s then "-inf" else "inf"
  | .finite s m e =>
    let t := tenths m e
    String.ofList ((if s then ['-'] else []) ++ digitChars (t / 10) ++ '.' :: digitChars (t % 10))

end ScanClient.Double
