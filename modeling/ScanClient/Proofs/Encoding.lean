import ScanClient.Proofs.Decoding

/-!
# Text and its bytes

Bytes are the encoding of some text if they are read without a gap, and then the text is what is
read. So there is one text at most, and encoding and strict decoding undo each other.
-/

namespace ScanClient.Text.Utf8

/-! ## One character -/

/-- A second byte that goes with a lead byte stands in the table. -/
theorem secondByte_of_begins {a b : UInt8} (begins : Begins a b) :
    ∃ low high, secondByte a = some (low, high) ∧ (low ≤ b && b ≤ high) = true := by
  have hlead := begins.lead
  have htail := begins.tail
  have hshorter := begins.notShorter
  have hsurrogate := begins.noSurrogate
  have hrange := begins.inRange
  simp only [secondByte, Bool.and_eq_true, decide_eq_true_eq, beq_iff_eq, UInt8.le_iff_toNat_le,
    ← UInt8.toNat_inj, UInt8.reduceToNat]
  repeat' split
  all_goals first
    | refine ⟨_, _, rfl, ?_⟩; simp only [UInt8.reduceToNat]; omega
    | omega

theorem Begins.not_ascii {a b : UInt8} (begins : Begins a b) : ¬a < 0x80 := by
  have := begins.lead
  rw [UInt8.lt_iff_toNat_lt]
  show ¬a.toNat < 0x80
  omega

/-- The bytes of one character: one to four, by the first of them. -/
inductive Encoded : List UInt8 → Char → Prop where
  | one {a : UInt8} (ha : a.toNat < 0x80) : Encoded [a] (Char.ofNat a.toNat)
  | two {a b : UInt8} (begins : Begins a b) (ha : a.toNat < 0xE0) : Encoded [a, b] (twoBytes a b)
  | three {a b c : UInt8} (begins : Begins a b) (ha : 0xE0 ≤ a.toNat) (ha' : a.toNat < 0xF0)
      (hc : isTail c = true) : Encoded [a, b, c] (threeBytes a b c)
  | four {a b c d : UInt8} (begins : Begins a b) (ha : 0xF0 ≤ a.toNat) (hc : isTail c = true)
      (hd : isTail d = true) : Encoded [a, b, c, d] (fourBytes a b c d)

namespace Encoded

/-- A byte is known by its number. -/
theorem ofNat_eq_of_mod {n : Nat} {b : UInt8} (h : n % 256 = b.toNat) : UInt8.ofNat n = b := by
  rw [← UInt8.toNat_inj, UInt8.toNat_ofNat']
  exact h

theorem encodeChar_eq {bytes : List UInt8} {c : Char} (h : Encoded bytes c) :
    String.utf8EncodeChar c = bytes := by
  have hval : c.val.toNat = c.toNat := rfl
  unfold String.utf8EncodeChar
  rw [hval]
  cases h with
  | @one a ha =>
    rw [toNat_ofNat_of_lt ha, if_pos (by omega), ofNat_eq_of_mod (b := a) (by omega)]
  | @two a b begins ha =>
    have hlead := begins.lead
    have htail := begins.tail
    rw [toNat_twoBytes begins, if_neg (by omega), if_pos (by omega),
      ofNat_eq_of_mod (b := a) (by omega), ofNat_eq_of_mod (b := b) (by omega)]
  | @three a b c begins ha ha' hc =>
    have htail := begins.tail
    have hshorter := begins.notShorter
    rw [toNat_of_isTail] at hc
    rw [toNat_threeBytes begins ha ha', if_neg (by omega), if_neg (by omega), if_pos (by omega),
      ofNat_eq_of_mod (b := a) (by omega), ofNat_eq_of_mod (b := b) (by omega),
      ofNat_eq_of_mod (b := c) (by omega)]
  | @four a b c d begins ha hc hd =>
    have hlead := begins.lead
    have htail := begins.tail
    have hshorter := begins.notShorter
    rw [toNat_of_isTail] at hc hd
    rw [toNat_fourBytes begins ha, if_neg (by omega), if_neg (by omega), if_neg (by omega),
      ofNat_eq_of_mod (b := a) (by omega), ofNat_eq_of_mod (b := b) (by omega),
      ofNat_eq_of_mod (b := c) (by omega), ofNat_eq_of_mod (b := d) (by omega)]

theorem pieces_append {bytes : List UInt8} {c : Char} (h : Encoded bytes c) (rest : List UInt8) :
    pieces (bytes ++ rest) = some c :: pieces rest := by
  have hnot {a limit : UInt8} (ha : limit.toNat ≤ a.toNat) : ¬a < limit := by
    rw [UInt8.lt_iff_toNat_lt]
    omega
  cases h with
  | one ha =>
    rw [List.cons_append, List.nil_append, pieces, if_pos (UInt8.lt_iff_toNat_lt.mpr ha)]
  | two begins ha =>
    obtain ⟨low, high, hlead, hb⟩ := secondByte_of_begins begins
    simp only [List.cons_append, List.nil_append]
    rw [pieces, if_neg begins.not_ascii, hlead]
    simp only [hb, Bool.not_true, Bool.false_eq_true, if_false]
    rw [if_pos (UInt8.lt_iff_toNat_lt.mpr ha)]
  | @three a _ _ begins ha ha' hc =>
    obtain ⟨low, high, hlead, hb⟩ := secondByte_of_begins begins
    have hlong : ¬a < 0xE0 := hnot ha
    simp only [List.cons_append, List.nil_append]
    rw [pieces, if_neg begins.not_ascii, hlead]
    simp only [hb, hc, hlong, Bool.not_true, Bool.false_eq_true, if_false]
    rw [if_pos (UInt8.lt_iff_toNat_lt.mpr ha')]
  | @four a _ _ _ begins ha hc hd =>
    obtain ⟨low, high, hlead, hb⟩ := secondByte_of_begins begins
    have hlonger : ¬a < 0xF0 := hnot ha
    have hlong : ¬a < 0xE0 := hnot (Nat.le_trans (by decide) ha)
    simp only [List.cons_append, List.nil_append]
    rw [pieces, if_neg begins.not_ascii, hlead]
    simp only [hb, hc, hd, hlong, hlonger, Bool.not_true, Bool.false_eq_true, if_false]

end Encoded

/-- Every character has bytes, and how many depends on its number. -/
theorem exists_encoded (c : Char) : ∃ bytes, Encoded bytes c := by
  have hvalid : c.toNat.isValidChar := c.valid
  unfold Nat.isValidChar at hvalid
  have hbyte : ∀ n, (UInt8.ofNat n).toNat = n % 256 := fun n => UInt8.toNat_ofNat'
  have htail : ∀ n, isTail (.ofNat (n % 64 + 128)) = true := by
    intro n
    rw [toNat_of_isTail, hbyte]
    omega
  by_cases hone : c.toNat < 0x80
  · have hsmall : (UInt8.ofNat c.toNat).toNat = c.toNat := by
      rw [hbyte]
      omega
    have h := Encoded.one (by rwa [hsmall])
    rw [hsmall, Char.ofNat_toNat] at h
    exact ⟨_, h⟩
  by_cases htwo : c.toNat < 0x800
  · have begins : Begins (.ofNat (c.toNat / 64 % 32 + 192)) (.ofNat (c.toNat % 64 + 128)) := by
      constructor <;> simp only [hbyte] <;> omega
    have hchar : twoBytes (.ofNat (c.toNat / 64 % 32 + 192)) (.ofNat (c.toNat % 64 + 128)) = c := by
      rw [← Char.toNat_inj, toNat_twoBytes begins, hbyte, hbyte]
      omega
    have h := Encoded.two begins (by rw [hbyte]; omega)
    rw [hchar] at h
    exact ⟨_, h⟩
  by_cases hthree : c.toNat < 0x10000
  · have begins : Begins (.ofNat (c.toNat / 4096 % 16 + 224))
        (.ofNat (c.toNat / 64 % 64 + 128)) := by
      constructor <;> simp only [hbyte] <;> omega
    have hlong : 0xE0 ≤ (UInt8.ofNat (c.toNat / 4096 % 16 + 224)).toNat := by
      rw [hbyte]
      omega
    have hshort : (UInt8.ofNat (c.toNat / 4096 % 16 + 224)).toNat < 0xF0 := by
      rw [hbyte]
      omega
    have hchar : threeBytes (.ofNat (c.toNat / 4096 % 16 + 224))
        (.ofNat (c.toNat / 64 % 64 + 128)) (.ofNat (c.toNat % 64 + 128)) = c := by
      rw [← Char.toNat_inj, toNat_threeBytes begins hlong hshort, hbyte, hbyte, hbyte]
      omega
    have h := Encoded.three begins hlong hshort (htail c.toNat)
    rw [hchar] at h
    exact ⟨_, h⟩
  · have begins : Begins (.ofNat (c.toNat / 262144 % 8 + 240))
        (.ofNat (c.toNat / 4096 % 64 + 128)) := by
      constructor <;> simp only [hbyte] <;> omega
    have hlong : 0xF0 ≤ (UInt8.ofNat (c.toNat / 262144 % 8 + 240)).toNat := by
      rw [hbyte]
      omega
    have hchar : fourBytes (.ofNat (c.toNat / 262144 % 8 + 240))
        (.ofNat (c.toNat / 4096 % 64 + 128)) (.ofNat (c.toNat / 64 % 64 + 128))
        (.ofNat (c.toNat % 64 + 128)) = c := by
      rw [← Char.toNat_inj, toNat_fourBytes begins hlong, hbyte, hbyte, hbyte, hbyte]
      omega
    have h := Encoded.four begins hlong (htail (c.toNat / 64)) (htail c.toNat)
    rw [hchar] at h
    exact ⟨_, h⟩

/-! ## A whole text -/

theorem encode_cons (c : Char) (s : List Char) :
    encode (c :: s) = String.utf8EncodeChar c ++ encode s := List.flatMap_cons

theorem pieces_encode (s : List Char) : pieces (encode s) = s.map some := by
  induction s with
  | nil => rfl
  | cons c s ih =>
    obtain ⟨bytes, encoded⟩ := exists_encoded c
    rw [encode_cons, encoded.encodeChar_eq, encoded.pieces_append, ih, List.map_cons]

/-- Bytes that are read without a gap are those of the text that is read. -/
theorem encode_of_pieces {bytes : List UInt8} {s : List Char} (h : pieces bytes = s.map some) :
    encode s = bytes := by
  have hbegins {a b low high : UInt8} (hlead : secondByte a = some (low, high))
      (hb : ¬(!(low ≤ b && b ≤ high)) = true) : Begins a b :=
    begins_of_secondByte hlead (by simpa using hb)
  have htail {b : UInt8} (hb : ¬(!isTail b) = true) : isTail b = true := by simpa using hb
  have hle {a limit : UInt8} (ha : ¬a < limit) : limit.toNat ≤ a.toNat := by
    rw [UInt8.lt_iff_toNat_lt] at ha
    omega
  have hchar {front rest : List UInt8} {c : Char} (encoded : Encoded front c)
      (ih : ∀ s, pieces rest = s.map some → encode s = rest) (s : List Char)
      (h : some c :: pieces rest = s.map some) : encode s = front ++ rest := by
    obtain ⟨d, more, rfl, hd, hmore⟩ := List.map_eq_cons_iff.mp h.symm
    cases hd
    rw [encode_cons, encoded.encodeChar_eq, ih more hmore.symm]
  have hgap {s : List Char} {more : List (Option Char)} (h : none :: more = s.map some) :
      False := by
    obtain ⟨d, rest, rfl, hd, hmore⟩ := List.map_eq_cons_iff.mp h.symm
    cases hd
  -- the readings of a character are those that make one, and all others leave a gap
  fun_induction pieces bytes generalizing s with
  | case1 => rw [List.map_eq_nil_iff.mp h.symm]; rfl
  | case2 a rest ha ih =>
    exact hchar (.one (UInt8.lt_iff_toNat_lt.mp ha)) (fun s h => ih h) s h
  | case6 a ha low high hlead b rest hb hshort ih =>
    have encoded := Encoded.two (hbegins hlead hb) (UInt8.lt_iff_toNat_lt.mp hshort)
    exact hchar encoded (fun s h => ih h) s h
  | case9 a ha low high hlead b hb hlong c rest hc hshort ih =>
    have encoded := Encoded.three (hbegins hlead hb) (hle hlong)
      (UInt8.lt_iff_toNat_lt.mp hshort) (htail hc)
    exact hchar encoded (fun s h => ih h) s h
  | case12 a ha low high hlead b hb hlong c hc hlonger d rest hd ih =>
    have encoded := Encoded.four (hbegins hlead hb) (hle hlonger) (htail hc) (htail hd)
    exact hchar encoded (fun s h => ih h) s h
  | _ => exact absurd h hgap

theorem mapM_id_eq_some_iff {s : List Char} {read : List (Option Char)} :
    read.mapM id = some s ↔ read = s.map some := by
  induction read generalizing s with
  | nil =>
    rw [List.mapM_nil, eq_comm (a := []), List.map_eq_nil_iff]
    exact ⟨fun h => (Option.some.inj h).symm, fun h => congrArg some h.symm⟩
  | cons c read ih =>
    rw [List.mapM_cons, eq_comm (a := c :: read), List.map_eq_cons_iff]
    cases c with
    | none =>
      constructor
      · intro h
        cases h
      · rintro ⟨d, more, rfl, hd, -⟩
        cases hd
    | some c =>
      show ((read.mapM id).bind fun more => some (c :: more)) = some s ↔ _
      rw [Option.bind_eq_some_iff]
      constructor
      · rintro ⟨more, hmore, hs⟩
        exact ⟨c, more, (Option.some.inj hs).symm, rfl, (ih.mp hmore).symm⟩
      · rintro ⟨d, more, rfl, hd, hmore⟩
        cases hd
        exact ⟨more, ih.mpr hmore.symm, rfl⟩

/-- Bytes are decoded strictly to the text that they are the bytes of, if there is one. -/
theorem decode?_eq_some_iff {bytes : List UInt8} {text : String} :
    decode? bytes = some text ↔ encodeText text = bytes := by
  rw [decode?, encodeText, Option.map_eq_some_iff]
  constructor
  · rintro ⟨s, hs, rfl⟩
    rw [String.toList_ofList]
    exact encode_of_pieces (mapM_id_eq_some_iff.mp hs)
  · rintro rfl
    exact ⟨text.toList, mapM_id_eq_some_iff.mpr (pieces_encode text.toList), String.ofList_toList⟩

theorem decodeLossy_encodeText (text : String) : decodeLossy (encodeText text) = text := by
  rw [decodeLossy, encodeText, pieces_encode, List.map_map]
  exact (congrArg String.ofList (List.map_id text.toList)).trans String.ofList_toList

end ScanClient.Text.Utf8
