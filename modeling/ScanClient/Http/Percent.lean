import ScanClient.Text.Hex
import ScanClient.Text.Utf8

/-!
# Percent encoding

Bytes that may not stand in some part of an address are written as a percent sign and two digits.
-/

namespace ScanClient.Http

open Text

def percentByte (b : UInt8) : List Char :=
  ['%', upperHexChar (b.toNat / 16), upperHexChar (b.toNat % 16)]

/-- Encodes the characters that are not kept. -/
def percentEncode (keep : Char → Bool) (s : List Char) : List Char :=
  s.flatMap fun c => if keep c then [c] else (String.utf8EncodeChar c).flatMap percentByte

/-- The characters that mean the same in every part of an address, encoded or not. -/
def isUnreserved (c : Char) : Bool :=
  c.isAlphanum || c == '-' || c == '_' || c == '.' || c == '~'

/-- A text as one segment of a path. -/
def encodeSegment (s : String) : String := String.ofList (percentEncode isUnreserved s.toList)

/-- The bytes of a text with its encoded bytes decoded. Where a percent sign is not followed by two
digits it stands for itself. -/
def percentDecode : List Char → List UInt8
  | [] => []
  | '%' :: a :: b :: rest =>
    match hexDigitValue a, hexDigitValue b with
    | some high, some low => UInt8.ofNat (high * 16 + low) :: percentDecode rest
    | _, _ => String.utf8EncodeChar '%' ++ percentDecode (a :: b :: rest)
  | c :: rest => String.utf8EncodeChar c ++ percentDecode rest

end ScanClient.Http
