/-!
# Hexadecimal digits
-/

namespace ScanClient.Text

/-- The value of a digit in either case. -/
def hexDigitValue (c : Char) : Option Nat :=
  if c.isDigit then some (c.toNat - '0'.toNat)
  else if 'a' ≤ c ∧ c ≤ 'f' then some (c.toNat - 'a'.toNat + 10)
  else if 'A' ≤ c ∧ c ≤ 'F' then some (c.toNat - 'A'.toNat + 10)
  else none

def lowerHex : List Char := "0123456789abcdef".toList

def upperHex : List Char := "0123456789ABCDEF".toList

def lowerHexChar (n : Nat) : Char := lowerHex.getD n '0'

def upperHexChar (n : Nat) : Char := upperHex.getD n '0'

end ScanClient.Text
