/-!
# Blank text

The characters with the White_Space property, and trimming by them.
-/

namespace ScanClient.Text

/-- The first and the last code point of each run of blank characters. -/
def blankRanges : List (Nat × Nat) :=
  [(0x09, 0x0D), (0x20, 0x20), (0x85, 0x85), (0xA0, 0xA0), (0x1680, 0x1680), (0x2000, 0x200A),
    (0x2028, 0x2029), (0x202F, 0x202F), (0x205F, 0x205F), (0x3000, 0x3000)]

def isBlank (c : Char) : Bool :=
  blankRanges.any fun (first, last) => first ≤ c.toNat && c.toNat ≤ last

/-- A text is blank when it holds no other characters, so the empty text is blank too. -/
def isBlankText (s : String) : Bool := s.toList.all isBlank

def dropEndWhile (p : Char → Bool) (s : List Char) : List Char :=
  (s.reverse.dropWhile p).reverse

def trimChars (s : List Char) : List Char := dropEndWhile isBlank (s.dropWhile isBlank)

/-- A text that is not blank holds another character. -/
theorem exists_of_isBlankText {s : String} (h : isBlankText s = false) :
    ∃ c ∈ s.toList, isBlank c = false := by
  obtain ⟨c, hc, hblank⟩ := List.all_eq_false.mp h
  exact ⟨c, hc, Bool.eq_false_iff.mpr hblank⟩

end ScanClient.Text
