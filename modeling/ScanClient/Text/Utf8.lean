/-!
# UTF-8

Bytes are read into characters. A malformed stretch, one longest beginning of a character that no
character continues, is read as one gap, so text can be had strictly (no gap) or leniently (each gap
shown as the replacement character).
-/

namespace ScanClient.Text.Utf8

/-- The bytes of a text. -/
def encode (s : List Char) : List UInt8 := s.flatMap String.utf8EncodeChar

def encodeText (s : String) : List UInt8 := encode s.toList

/-- The number of bytes of a text. -/
def size : List Char → Nat
  | [] => 0
  | c :: s => c.utf8Size + size s

/-- The range of the second byte after a lead byte; only the second byte depends on the first. -/
def secondByte (lead : UInt8) : Option (UInt8 × UInt8) :=
  if 0xC2 ≤ lead && lead ≤ 0xDF then some (0x80, 0xBF)
  else if lead == 0xE0 then some (0xA0, 0xBF)
  else if lead == 0xED then some (0x80, 0x9F)
  else if 0xE1 ≤ lead && lead ≤ 0xEF then some (0x80, 0xBF)
  else if lead == 0xF0 then some (0x90, 0xBF)
  else if 0xF1 ≤ lead && lead ≤ 0xF3 then some (0x80, 0xBF)
  else if lead == 0xF4 then some (0x80, 0x8F)
  else none

def isTail (b : UInt8) : Bool := 0x80 ≤ b && b ≤ 0xBF

/-- The low six bits, which a tail byte contributes. -/
def tailBits (b : UInt8) : Nat := b.toNat % 64

def twoBytes (a b : UInt8) : Char := Char.ofNat (a.toNat % 32 * 64 + tailBits b)

def threeBytes (a b c : UInt8) : Char :=
  Char.ofNat ((a.toNat % 16 * 64 + tailBits b) * 64 + tailBits c)

def fourBytes (a b c d : UInt8) : Char :=
  Char.ofNat (((a.toNat % 8 * 64 + tailBits b) * 64 + tailBits c) * 64 + tailBits d)

/-- The characters of some bytes, with `none` for each malformed stretch. -/
def pieces : List UInt8 → List (Option Char)
  | [] => []
  | a :: rest₁ =>
    if a < 0x80 then some (Char.ofNat a.toNat) :: pieces rest₁
    else match secondByte a with
      | none => none :: pieces rest₁
      | some (low, high) =>
        match rest₁ with
        | [] => [none]
        | b :: rest₂ =>
          if !(low ≤ b && b ≤ high) then none :: pieces (b :: rest₂)
          else if a < 0xE0 then some (twoBytes a b) :: pieces rest₂
          else match rest₂ with
            | [] => [none]
            | c :: rest₃ =>
              if !isTail c then none :: pieces (c :: rest₃)
              else if a < 0xF0 then some (threeBytes a b c) :: pieces rest₃
              else match rest₃ with
                | [] => [none]
                | d :: rest₄ =>
                  if !isTail d then none :: pieces (d :: rest₄)
                  else some (fourBytes a b c d) :: pieces rest₄

/-- The text of some bytes, if nothing in them is malformed. -/
def decode? (bytes : List UInt8) : Option String :=
  ((pieces bytes).mapM id).map String.ofList

/-- The text of some bytes, with U+FFFD for each malformed stretch. -/
def decodeLossy (bytes : List UInt8) : String :=
  String.ofList ((pieces bytes).map (·.getD '\uFFFD'))

end ScanClient.Text.Utf8
