import ScanClient.Number.Notation

/-!
# Risk

A coarse reading of the probability that a file is malicious.
-/

namespace ScanClient

inductive RiskLevel where
  | safe
  | low
  | medium
  | high
  deriving DecidableEq, Repr

def RiskLevel.name : RiskLevel → String
  | .safe => "SAFE"
  | .low => "LOW"
  | .medium => "MEDIUM"
  | .high => "HIGH"

/-- A number of tenths as a double. -/
def tenths (n : Nat) : Double := .ofDecimal false n (-1)

/-- High from 0.8 on, medium from 0.5, low from 0.3; what is not a number is safe. -/
def RiskLevel.ofProbability (p : Double) : RiskLevel :=
  if (tenths 8).le p then .high
  else if (tenths 5).le p then .medium
  else if (tenths 3).le p then .low
  else .safe

/-- A probability as a percentage with one decimal place. -/
def percentText (p : Double) : String := (p.mul (.ofNat 100)).onePlace ++ "%"

end ScanClient
