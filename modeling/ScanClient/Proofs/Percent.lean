import ScanClient.Http.Url

/-!
# Encoded segments

A segment that has been encoded can be read back, whatever text it stands for. Nothing in it ends a
segment or a path, and only the segments of `.` and `..` are dots to whoever resolves dots.
-/

namespace ScanClient

namespace Text

theorem Utf8.encode_inj {s t : List Char} (h : encode s = encode t) : s = t := by
  -- a string is its bytes
  have hbytes : (String.ofList s).toByteArray = (String.ofList t).toByteArray :=
    congrArg List.toByteArray h
  exact String.ofList_injective (String.toByteArray_inj.mp hbytes)

/-- The byte of a dot occurs in no other character. -/
theorem Utf8.ne_dot_of_mem {c : Char} (h : c ≠ '.') {b : UInt8}
    (hb : b ∈ String.utf8EncodeChar c) : b.toNat ≠ 0x2E := by
  have hc : c.val.toNat ≠ 0x2E := by
    intro heq
    exact h (Char.ext (UInt32.toNat_inj.mp heq))
  simp only [String.utf8EncodeChar] at hb
  -- a single byte is the character itself, and the bytes of a longer one are all greater
  split at hb
  · rw [List.mem_singleton.mp hb, UInt8.toNat_ofNat']
    omega
  · have hbig : 128 ≤ b.toNat := by
      split at hb
      · simp only [List.mem_cons, List.not_mem_nil, or_false] at hb
        rcases hb with rfl | rfl <;> rw [UInt8.toNat_ofNat'] <;> omega
      · split at hb
        · simp only [List.mem_cons, List.not_mem_nil, or_false] at hb
          rcases hb with rfl | rfl | rfl <;> rw [UInt8.toNat_ofNat'] <;> omega
        · simp only [List.mem_cons, List.not_mem_nil, or_false] at hb
          rcases hb with rfl | rfl | rfl | rfl <;> rw [UInt8.toNat_ofNat'] <;> omega
    omega

/-- A digit of a byte is read as what it was written for. -/
theorem hexDigitValue_upperHexChar {n : Nat} (h : n < 16) :
    hexDigitValue (upperHexChar n) = some n := by
  have hall : ∀ n < 16, hexDigitValue (upperHexChar n) = some n := by decide
  exact hall n h

end Text

namespace Http

open Text

/-! ## Reading back -/

theorem percentDecode_cons {c : Char} (h : c ≠ '%') (rest : List Char) :
    percentDecode (c :: rest) = String.utf8EncodeChar c ++ percentDecode rest := by
  rw [percentDecode]
  rintro a b rest' rfl -
  exact h rfl

theorem percentDecode_percentByte (b : UInt8) (rest : List Char) :
    percentDecode (percentByte b ++ rest) = b :: percentDecode rest := by
  have hb := b.toNat_lt
  have hhigh := hexDigitValue_upperHexChar (show b.toNat / 16 < 16 by omega)
  have hlow := hexDigitValue_upperHexChar (show b.toNat % 16 < 16 by omega)
  have hsum : b.toNat / 16 * 16 + b.toNat % 16 = b.toNat := by omega
  simp only [percentByte, List.cons_append, List.nil_append, percentDecode, hhigh, hlow, hsum,
    UInt8.ofNat_toNat]

theorem percentDecode_bytes (bytes : List UInt8) (rest : List Char) :
    percentDecode (bytes.flatMap percentByte ++ rest) = bytes ++ percentDecode rest := by
  induction bytes with
  | nil => rfl
  | cons b bytes ih =>
    rw [List.flatMap_cons, List.append_assoc, percentDecode_percentByte, ih, List.cons_append]

/-- What has been encoded is read back, whichever characters were kept but percent signs. -/
theorem percentDecode_percentEncode {keep : Char → Bool} (h : keep '%' = false) (s : List Char) :
    percentDecode (percentEncode keep s) = Utf8.encode s := by
  induction s with
  | nil => rfl
  | cons c s ih =>
    rw [percentEncode, List.flatMap_cons] at *
    rw [Utf8.encode, List.flatMap_cons]
    by_cases hc : keep c = true
    · have hne : c ≠ '%' := by
        rintro rfl
        rw [h] at hc
        cases hc
      rw [if_pos hc, List.singleton_append, percentDecode_cons hne, ih]
      rfl
    · rw [if_neg hc, percentDecode_bytes, ih]
      rfl

/-- So different texts have different segments. -/
theorem encodeSegment_inj {s t : String} (h : encodeSegment s = encodeSegment t) : s = t := by
  have hchars := String.ofList_injective h
  have hbytes := congrArg percentDecode hchars
  rw [percentDecode_percentEncode rfl, percentDecode_percentEncode rfl] at hbytes
  exact String.toList_injective (Utf8.encode_inj hbytes)

/-! ## The characters of a segment -/

/-- The characters of encoded segments. -/
def isSegmentChar (c : Char) : Bool := isUnreserved c || c == '%'

/-- They are few, so what is said of all of them can be looked up. -/
theorem of_isSegmentChar {p : Char → Bool}
    (hall : ∀ n < 128, isSegmentChar (Char.ofNat n) = true → p (Char.ofNat n) = true) {c : Char}
    (hc : isSegmentChar c = true) : p c = true := by
  have hlt : c.toNat < 128 := by
    have hupper : c.isUpper = decide (c.val ≥ 'A'.val ∧ c.val ≤ 'Z'.val) := rfl
    have hlower : c.isLower = (decide (c.val ≥ 'a'.val) && decide (c.val ≤ 'z'.val)) := rfl
    have halpha : c.isAlpha = (c.isUpper || c.isLower) := rfl
    simp only [isSegmentChar, isUnreserved, Char.isAlphanum, halpha, hupper, hlower, Char.isDigit,
      Bool.or_eq_true, Bool.and_eq_true, decide_eq_true_eq, beq_iff_eq] at hc
    rcases hc with ((((((⟨_, h⟩ | ⟨_, h⟩) | ⟨_, h⟩) | rfl) | rfl) | rfl) | rfl) | rfl
    · exact Nat.lt_of_le_of_lt (UInt32.le_iff_toNat_le.mp h) (by decide)
    · exact Nat.lt_of_le_of_lt (UInt32.le_iff_toNat_le.mp h) (by decide)
    · exact Nat.lt_of_le_of_lt (UInt32.le_iff_toNat_le.mp h) (by decide)
    all_goals decide
  have hp := hall c.toNat hlt
  rw [Char.ofNat_toNat] at hp
  exact hp hc

theorem isSegmentChar_of_mem_percentByte {b : UInt8} {c : Char} (h : c ∈ percentByte b) :
    isSegmentChar c = true := by
  have hb := b.toNat_lt
  have hall : ∀ n < 16, isSegmentChar (upperHexChar n) = true := by decide
  simp only [percentByte, List.mem_cons, List.not_mem_nil, or_false] at h
  rcases h with rfl | rfl | rfl
  · rfl
  · exact hall _ (by omega)
  · exact hall _ (by omega)

theorem isSegmentChar_of_mem_encodeSegment {s : String} {c : Char}
    (h : c ∈ (encodeSegment s).toList) : isSegmentChar c = true := by
  rw [encodeSegment, String.toList_ofList, percentEncode] at h
  obtain ⟨d, _, hc⟩ := List.mem_flatMap.mp h
  split at hc
  next hd =>
    rw [List.mem_singleton.mp hc, isSegmentChar, hd, Bool.true_or]
  next =>
    obtain ⟨b, _, hc⟩ := List.mem_flatMap.mp hc
    exact isSegmentChar_of_mem_percentByte hc

theorem percentEncode_of_kept {keep : Char → Bool} {s : List Char}
    (h : ∀ c ∈ s, keep c = true) : percentEncode keep s = s := by
  induction s with
  | nil => rfl
  | cons c s ih =>
    rw [percentEncode, List.flatMap_cons, if_pos (h c List.mem_cons_self), List.singleton_append]
    exact congrArg (c :: ·) (ih fun d hd => h d (List.mem_cons_of_mem _ hd))

/-- An encoded segment stands in a path as it is. -/
theorem encodeText_encodeSegment (s : String) :
    encodeText keptInPath (encodeSegment s).toList = encodeSegment s := by
  have hkept : ∀ c ∈ (encodeSegment s).toList, keptInPath c = true := fun c hc =>
    of_isSegmentChar (by decide) (isSegmentChar_of_mem_encodeSegment hc)
  rw [encodeText, percentEncode_of_kept hkept, String.ofList_toList]

/-- A text of characters that need no encoding is its own segment. -/
theorem encodeSegment_of_unreserved {s : String} (h : ∀ c ∈ s.toList, isUnreserved c = true) :
    encodeSegment s = s := by
  rw [encodeSegment, percentEncode_of_kept h, String.ofList_toList]

/-! ## Dots -/

theorem decodeDots_cons {c : Char} (h : c ≠ '%') (rest : List Char) :
    decodeDots (c :: rest) = c :: decodeDots rest := by
  rw [decodeDots]
  · rintro rest' rfl -
    exact h rfl
  · rintro rest' rfl -
    exact h rfl

/-- An encoded byte is an encoded dot only if it is the byte of a dot. -/
theorem decodeDots_percentByte {b : UInt8} (h : b.toNat ≠ 0x2E) (rest : List Char) :
    decodeDots (percentByte b ++ rest) = percentByte b ++ decodeDots rest := by
  have hb := b.toNat_lt
  have hhigh := hexDigitValue_upperHexChar (show b.toNat / 16 < 16 by omega)
  have hlow := hexDigitValue_upperHexChar (show b.toNat % 16 < 16 by omega)
  have hpercent : ∀ n < 16, upperHexChar n ≠ '%' := by decide
  -- the second digit of a dot is fourteen, in either case
  have hdot : ∀ low rest', hexDigitValue low = some 14 →
      upperHexChar (b.toNat / 16) :: upperHexChar (b.toNat % 16) :: rest = '2' :: low :: rest' →
      False := by
    intro low rest' hvalue heq
    obtain ⟨htwo, heq⟩ := List.cons.inj heq
    obtain ⟨hfourteen, _⟩ := List.cons.inj heq
    rw [htwo, show hexDigitValue '2' = some 2 by decide, Option.some.injEq] at hhigh
    rw [hfourteen, hvalue, Option.some.injEq] at hlow
    omega
  simp only [percentByte, List.cons_append, List.nil_append]
  rw [decodeDots, decodeDots_cons (hpercent _ (by omega)), decodeDots_cons (hpercent _ (by omega))]
  · exact fun rest' _ => hdot 'e' rest' (by decide)
  · exact fun rest' _ => hdot 'E' rest' (by decide)

theorem decodeDots_bytes {bytes : List UInt8} (h : ∀ b ∈ bytes, b.toNat ≠ 0x2E)
    (rest : List Char) :
    decodeDots (bytes.flatMap percentByte ++ rest) =
      bytes.flatMap percentByte ++ decodeDots rest := by
  induction bytes with
  | nil => rfl
  | cons b bytes ih =>
    rw [List.flatMap_cons, List.append_assoc, decodeDots_percentByte (h b List.mem_cons_self),
      ih fun b hb => h b (List.mem_cons_of_mem _ hb), List.append_assoc]

/-- There are no encoded dots in a segment, for dots are kept. -/
theorem decodeDots_percentEncode (s : List Char) :
    decodeDots (percentEncode isUnreserved s) = percentEncode isUnreserved s := by
  induction s with
  | nil => rfl
  | cons c s ih =>
    rw [percentEncode, List.flatMap_cons]
    rw [percentEncode] at ih
    by_cases hc : isUnreserved c = true
    · have hne : c ≠ '%' := by
        rintro rfl
        cases hc
      rw [if_pos hc, List.singleton_append, decodeDots_cons hne, ih]
    · have hne : c ≠ '.' := by
        rintro rfl
        exact hc rfl
      rw [if_neg hc, decodeDots_bytes fun b hb => Utf8.ne_dot_of_mem hne hb, ih]

/-- A segment is dots only if the text it stands for is. -/
theorem decodeDots_encodeSegment_iff (s dots : String)
    (hdots : dots.toList.all isUnreserved = true) :
    decodeDots (encodeSegment s).toList = dots.toList ↔ s = dots := by
  have hkept := List.all_eq_true.mp hdots
  rw [encodeSegment, String.toList_ofList, decodeDots_percentEncode]
  constructor
  · intro h
    apply encodeSegment_inj
    rw [encodeSegment_of_unreserved hkept, encodeSegment, h, String.ofList_toList]
  · rintro rfl
    exact percentEncode_of_kept hkept

end Http

end ScanClient
