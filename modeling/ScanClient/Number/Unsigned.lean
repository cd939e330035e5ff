/-!
# Unsigned numbers

Natural numbers as settings spell them, with an upper bound that the reader of the setting chooses.
-/

namespace ScanClient

def maxUInt64 : Nat := Nat.pow 2 64 - 1

def maxUInt32 : Nat := Nat.pow 2 32 - 1

/-- A number up to a limit: digits, which a plus sign may precede. -/
def parseUnsigned (limit : Nat) (s : List Char) : Option Nat :=
  let ds := match s with
    | '+' :: rest => rest
    | _ => s
  if ds.isEmpty ∨ !ds.all Char.isDigit then none
  else
    let n := Nat.ofDigitChars 10 ds 0
    if n ≤ limit then some n else none

end ScanClient
