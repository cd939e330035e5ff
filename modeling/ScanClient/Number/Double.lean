/-!
# Doubles

Binary floating-point numbers of 53 bits as exact values: a finite one is its sign, a significand
and a power of two. Arithmetic is done on the exact values and rounded once, to the nearest double,
a tie going to the even significand.
-/

namespace ScanClient

/-- A double. A finite one stands for `± significand * 2 ^ exponent`; `Double.ratio` builds those in
lowest form, where the significand has 53 bits or the exponent is the least one. -/
inductive Double where
  | finite (negative : Bool) (significand : Nat) (exponent : Int)
  | infinite (negative : Bool)
  | notANumber
  deriving DecidableEq, Repr, Inhabited

namespace Double

/-- The exponent of the smallest positive double. -/
def minExponent : Int := -1074

/-- The exponent of the largest finite doubles. -/
def maxExponent : Int := 971

/-- The quotient as an integer, a half going to the even neighbour. -/
def nearestEven (num den : Nat) : Nat :=
  let q := num / den
  let r := num % den
  if 2 * r < den then q
  else if den < 2 * r then q + 1
  else if q % 2 = 0 then q else q + 1

/-- `num / (den * 2 ^ e)` as a fraction. -/
def scaleDown (num den : Nat) (e : Int) : Nat × Nat :=
  if 0 ≤ e then (num, den * Nat.pow 2 e.toNat) else (num * Nat.pow 2 (-e).toNat, den)

/-- The exponent at which `num / den` has an integer part of 53 bits, or the least exponent. -/
def exponentFor (num den : Nat) : Int :=
  let e : Int := (num.log2 : Int) - (den.log2 : Int) - 52
  let (n, d) := scaleDown num den e
  max minExponent (if n < d * Nat.pow 2 52 then e - 1 else e)

/-- The double nearest to `± num / den`. -/
def ratio (negative : Bool) (num den : Nat) : Double :=
  if num = 0 then .finite negative 0 minExponent
  else
    let e := exponentFor num den
    let (n, d) := scaleDown num den e
    let m := nearestEven n d
    let (m, e) := if m = Nat.pow 2 53 then (Nat.pow 2 52, e + 1) else (m, e)
    if maxExponent < e then .infinite negative else .finite negative m e

def ofNat (n : Nat) : Double := ratio false n 1

def ofInt (n : Int) : Double := ratio (n < 0) n.natAbs 1

def isZero : Double → Bool
  | .finite _ m _ => m == 0
  | _ => false

def isInfinite : Double → Bool
  | .infinite _ => true
  | _ => false

def neg : Double → Double
  | .finite s m e => .finite (!s) m e
  | .infinite s => .infinite (!s)
  | .notANumber => .notANumber

/-- `± (m₁ * 2 ^ e₁) * (m₂ * 2 ^ e₂)`, rounded once. -/
def mul : Double → Double → Double
  | .finite s₁ m₁ e₁, .finite s₂ m₂ e₂ =>
    let (n, d) := scaleDown (m₁ * m₂) 1 (-(e₁ + e₂))
    ratio (s₁ != s₂) n d
  | .infinite s₁, .finite s₂ m₂ _ => if m₂ = 0 then .notANumber else .infinite (s₁ != s₂)
  | .finite s₁ m₁ _, .infinite s₂ => if m₁ = 0 then .notANumber else .infinite (s₁ != s₂)
  | .infinite s₁, .infinite s₂ => .infinite (s₁ != s₂)
  | .notANumber, _ => .notANumber
  | _, .notANumber => .notANumber

/-- The quotient of two finite doubles, rounded once; other operands have no quotient here. -/
def div : Double → Double → Double
  | .finite s₁ m₁ e₁, .finite s₂ m₂ e₂ =>
    if m₂ = 0 then .notANumber
    else
      let (n, d) := scaleDown m₁ m₂ (e₂ - e₁)
      ratio (s₁ != s₂) n d
  | _, _ => .notANumber

/-- The exact value at a scale: `± m * 2 ^ (e - base)` for an exponent that is at least `base`. -/
def atScale (negative : Bool) (m : Nat) (e base : Int) : Int :=
  let n : Int := (m * Nat.pow 2 (e - base).toNat : Nat)
  if negative then -n else n

/-- The order of two doubles by value; nothing is comparable with what is not a number. -/
def order? : Double → Double → Option Ordering
  | .notANumber, _ => none
  | _, .notANumber => none
  | .infinite true, .infinite true => some .eq
  | .infinite false, .infinite false => some .eq
  | .infinite s, _ => some (if s then .lt else .gt)
  | _, .infinite s => some (if s then .gt else .lt)
  | .finite s₁ m₁ e₁, .finite s₂ m₂ e₂ =>
    let base := min e₁ e₂
    some (compare (atScale s₁ m₁ e₁ base) (atScale s₂ m₂ e₂ base))

/-- `x` is at most `y`; false when either is not a number. -/
def le (x y : Double) : Bool :=
  match order? x y with
  | some .lt | some .eq => true
  | _ => false

def zero : Double := ofNat 0
def one : Double := ofNat 1

/-- The double nearest to `± digits * 10 ^ exponent`. Exponents far outside the range are settled
without building the power. -/
def ofDecimal (negative : Bool) (digits : Nat) (exponent : Int) : Double :=
  let magnitude : Int := (Nat.toDigits 10 digits).length + exponent
  if digits = 0 ∨ magnitude < -330 then ratio negative 0 1
  else if 310 < magnitude then .infinite negative
  else if 0 ≤ exponent then ratio negative (digits * Nat.pow 10 exponent.toNat) 1
  else ratio negative digits (Nat.pow 10 (-exponent).toNat)

/-- The powers of ten that decimals are scaled by, each rounded once. -/
def powerOfTen (k : Nat) : Double := ofNat (Nat.pow 10 k)

end Double

end ScanClient
