import ScanClient.Number.Double

/-!
# The shortest decimal of a double

The decimals that round to a double form an interval. The decimal chosen is one with the fewest
digits in that interval and, of those, the nearest to the double.
-/

namespace ScanClient.Double

/-- The decimal `digits * 10 ^ exponent`. -/
structure Decimal where
  digits : Nat
  exponent : Int
  deriving DecidableEq, Repr

/-- Which of two equally near decimals is taken. -/
inductive Tie where
  | toEven
  | up
  deriving DecidableEq, Repr

/-- The order of `a * 10 ^ i` and `n * 2 ^ j`, exactly. -/
def compareScaled (a : Nat) (i : Int) (n : Nat) (j : Int) : Ordering :=
  compare (a * Nat.pow 10 i.toNat * Nat.pow 2 (-j).toNat)
    (n * Nat.pow 2 j.toNat * Nat.pow 10 (-i).toNat)

/-- Whether a decimal rounds to `m * 2 ^ e`. The interval reaches half way to each neighbour; below
a power of two the neighbour is half as far. An end belongs to it when `m` is even. -/
def readsBack (m : Nat) (e : Int) (d : Decimal) : Bool :=
  let low := if m = Nat.pow 2 52 ∧ minExponent < e then 4 * m - 1 else 4 * m - 2
  let high := 4 * m + 2
  let closed := m % 2 == 0
  let atLow := compareScaled d.digits d.exponent low (e - 2)
  let atHigh := compareScaled d.digits d.exponent high (e - 2)
  (atLow == .gt || (closed && atLow == .eq)) && (atHigh == .lt || (closed && atHigh == .eq))

/-- An estimate from the binary logarithm, never above the result of `scaleOf` by more than one. -/
def scaleEstimate (m : Nat) (e : Int) : Int := ((m.log2 : Int) + e) * 30103 / 100000

/-- The least `k` with `m * 2 ^ e < 10 ^ k`. -/
def scaleOf (m : Nat) (e : Int) : Int :=
  let k := scaleEstimate m e
  let candidates := [k - 1, k, k + 1, k + 2]
  (candidates.find? fun k => compareScaled 1 k m e == .gt).getD (k + 3)

/-- The integer part of `m * 2 ^ e / 10 ^ p`. -/
def floorAt (m : Nat) (e p : Int) : Nat :=
  (m * Nat.pow 2 e.toNat * Nat.pow 10 (-p).toNat) / (Nat.pow 2 (-e).toNat * Nat.pow 10 p.toNat)

/-- The better of two neighbours on the grid of `10 ^ p`: the one that reads back, or the nearer. -/
def pick (tie : Tie) (m : Nat) (e p : Int) : Option Decimal :=
  let below : Decimal := ⟨floorAt m e p, p⟩
  let above : Decimal := ⟨floorAt m e p + 1, p⟩
  match readsBack m e below, readsBack m e above with
  | false, false => none
  | true, false => some below
  | false, true => some above
  | true, true =>
    match compareScaled (below.digits + above.digits) p m (e + 1), tie with
    | .gt, _ => some below
    | .lt, _ => some above
    | .eq, .up => some above
    | .eq, .toEven => some (if below.digits % 2 = 0 then below else above)

/-- Drops the zeros at the end of the digits. -/
def Decimal.strip (d : Decimal) : Decimal :=
  if d.digits ≠ 0 ∧ d.digits % 10 = 0 then strip ⟨d.digits / 10, d.exponent + 1⟩ else d
termination_by d.digits
decreasing_by omega

/-- The shortest decimal of `m * 2 ^ e` for a positive `m`. Seventeen digits always suffice; were
that to fail, the exact value would be taken. -/
def shortest (tie : Tie) (m : Nat) (e : Int) : Decimal :=
  let k := scaleOf m e
  let found := (List.range 17).findSome? fun n : Nat => pick tie m e (k - ((n : Int) + 1))
  (found.getD ⟨m * Nat.pow 2 e.toNat * Nat.pow 5 (-e).toNat, -((-e).toNat : Int)⟩).strip

end ScanClient.Double
