import ScanClient.Text.Utf8

/-!
# Text out of any bytes

Bytes that are not UTF-8 are decoded all the same, with a replacement for each malformed stretch. No
stretch takes an ASCII byte in, however it goes on, and nothing but that byte is shown as its
character. So bytes and text can be cut at the same ASCII characters.
-/

namespace ScanClient.Text.Utf8

/-- Bytes and the characters they are shown as: an ASCII byte as its own character, and stretches of
other bytes as other characters. -/
inductive Decodes : List UInt8 → List Char → Prop where
  | nil : Decodes [] []
  | ascii {b : UInt8} {bytes : List UInt8} {chars : List Char} (hb : b.toNat < 0x80)
      (h : Decodes bytes chars) : Decodes (b :: bytes) (Char.ofNat b.toNat :: chars)
  | other {stretch bytes : List UInt8} {c : Char} {chars : List Char} (hne : stretch ≠ [])
      (hstretch : ∀ b ∈ stretch, 0x80 ≤ b.toNat) (hc : 0x80 ≤ c.toNat)
      (h : Decodes bytes chars) : Decodes (stretch ++ bytes) (c :: chars)

/-! ## Characters of several bytes -/

/-- A lead byte, and a second byte that goes with it. -/
structure Begins (a b : UInt8) : Prop where
  lead : 0xC2 ≤ a.toNat ∧ a.toNat ≤ 0xF4
  tail : 0x80 ≤ b.toNat ∧ b.toNat ≤ 0xBF
  notShorter : (a.toNat = 0xE0 → 0xA0 ≤ b.toNat) ∧ (a.toNat = 0xF0 → 0x90 ≤ b.toNat)
  noSurrogate : a.toNat = 0xED → b.toNat ≤ 0x9F
  inRange : a.toNat = 0xF4 → b.toNat ≤ 0x8F

theorem begins_of_secondByte {a b low high : UInt8} (h : secondByte a = some (low, high))
    (hb : (low ≤ b && b ≤ high) = true) : Begins a b := by
  simp only [secondByte, Bool.and_eq_true, decide_eq_true_eq, beq_iff_eq, UInt8.le_iff_toNat_le,
    ← UInt8.toNat_inj, UInt8.reduceToNat] at h hb
  -- one case for each row of the table
  repeat' split at h
  all_goals cases h
  all_goals simp only [UInt8.reduceToNat] at hb
  all_goals constructor <;> omega

theorem toNat_ofNat {n : Nat} (hvalid : n.isValidChar) : (Char.ofNat n).toNat = n := by
  have heq : Char.ofNat n = Char.ofNatAux n hvalid := dif_pos hvalid
  rw [heq]
  exact UInt32.toNat_ofNatLT

theorem toNat_twoBytes {a b : UInt8} (begins : Begins a b) :
    (twoBytes a b).toNat = a.toNat % 32 * 64 + b.toNat % 64 := by
  have := begins.lead
  apply toNat_ofNat
  apply Or.inl
  unfold tailBits
  omega

theorem toNat_threeBytes {a b : UInt8} (begins : Begins a b) (ha : 0xE0 ≤ a.toNat)
    (ha' : a.toNat < 0xF0) (c : UInt8) :
    (threeBytes a b c).toNat = (a.toNat % 16 * 64 + b.toNat % 64) * 64 + c.toNat % 64 := by
  have := begins.tail
  have := begins.noSurrogate
  apply toNat_ofNat
  unfold Nat.isValidChar tailBits
  omega

theorem toNat_fourBytes {a b : UInt8} (begins : Begins a b) (ha : 0xF0 ≤ a.toNat) (c d : UInt8) :
    (fourBytes a b c d).toNat =
      ((a.toNat % 8 * 64 + b.toNat % 64) * 64 + c.toNat % 64) * 64 + d.toNat % 64 := by
  have := begins.lead
  have := begins.tail
  have := begins.notShorter
  have := begins.inRange
  apply toNat_ofNat
  unfold Nat.isValidChar tailBits
  omega

theorem le_twoBytes {a b : UInt8} (begins : Begins a b) (ha : a.toNat < 0xE0) :
    0x80 ≤ (twoBytes a b).toNat := by
  have := begins.lead
  rw [toNat_twoBytes begins]
  omega

theorem le_threeBytes {a b : UInt8} (begins : Begins a b) (ha : 0xE0 ≤ a.toNat)
    (ha' : a.toNat < 0xF0) (c : UInt8) : 0x80 ≤ (threeBytes a b c).toNat := by
  have := begins.tail
  have := begins.notShorter
  rw [toNat_threeBytes begins ha ha' c]
  omega

theorem le_fourBytes {a b : UInt8} (begins : Begins a b) (ha : 0xF0 ≤ a.toNat) (c d : UInt8) :
    0x80 ≤ (fourBytes a b c d).toNat := by
  have := begins.lead
  have := begins.tail
  have := begins.notShorter
  rw [toNat_fourBytes begins ha c d]
  omega

theorem toNat_of_isTail {b : UInt8} : isTail b = true ↔ 0x80 ≤ b.toNat ∧ b.toNat ≤ 0xBF := by
  simp only [isTail, Bool.and_eq_true, decide_eq_true_eq, UInt8.le_iff_toNat_le]
  exact Iff.rfl

theorem le_of_isTail {b : UInt8} (h : isTail b = true) : 0x80 ≤ b.toNat :=
  (toNat_of_isTail.mp h).1

/-! ## Decoding -/

theorem le_of_not_lt {b : UInt8} (h : ¬b < 0x80) : 0x80 ≤ b.toNat := by
  rw [UInt8.lt_iff_toNat_lt] at h
  exact Nat.le_of_not_lt h

/-- A malformed stretch is shown as its replacement. -/
theorem Decodes.gap (stretch : List UInt8) {bytes : List UInt8} {chars : List Char}
    (h : Decodes bytes chars) (hne : stretch ≠ []) (hstretch : ∀ b ∈ stretch, 0x80 ≤ b.toNat) :
    Decodes (stretch ++ bytes) ('\uFFFD' :: chars) :=
  .other hne hstretch (by decide) h

theorem decodes_pieces (bytes : List UInt8) :
    Decodes bytes ((pieces bytes).map (·.getD '\uFFFD')) := by
  have hbegins {a b low high : UInt8} (hlead : secondByte a = some (low, high))
      (hb : ¬(!(low ≤ b && b ≤ high)) = true) : Begins a b :=
    begins_of_secondByte hlead (by simpa using hb)
  have htail {b : UInt8} (hb : ¬(!isTail b) = true) : 0x80 ≤ b.toNat :=
    le_of_isTail (by simpa using hb)
  -- a stretch ends before the first byte that cannot go on with it, and that byte is read anew
  fun_induction pieces bytes with
  | case1 => exact .nil
  | case2 a rest ha ih => exact .ascii (UInt8.lt_iff_toNat_lt.mp ha) ih
  | case3 a rest ha hlead ih => exact ih.gap [a] (by simp) (by simpa using le_of_not_lt ha)
  | case4 a ha low high hlead =>
    exact Decodes.nil.gap [a] (by simp) (by simpa using le_of_not_lt ha)
  | case5 a ha low high hlead b rest hb ih =>
    exact ih.gap [a] (by simp) (by simpa using le_of_not_lt ha)
  | case6 a ha low high hlead b rest hb hshort ih =>
    have begins := hbegins hlead hb
    have hchar := le_twoBytes begins (UInt8.lt_iff_toNat_lt.mp hshort)
    have hstretch : ∀ x ∈ [a, b], 0x80 ≤ x.toNat := by simp [le_of_not_lt ha, begins.tail.1]
    exact Decodes.other (by simp) hstretch hchar ih
  | case7 a ha low high hlead b hb hlong =>
    have begins := hbegins hlead hb
    exact Decodes.nil.gap [a, b] (by simp) (by simp [le_of_not_lt ha, begins.tail.1])
  | case8 a ha low high hlead b hb hlong c rest hc ih =>
    have begins := hbegins hlead hb
    exact ih.gap [a, b] (by simp) (by simp [le_of_not_lt ha, begins.tail.1])
  | case9 a ha low high hlead b hb hlong c rest hc hshort ih =>
    have begins := hbegins hlead hb
    have hlong : 0xE0 ≤ a.toNat := Nat.le_of_not_lt fun h => hlong (UInt8.lt_iff_toNat_lt.mpr h)
    have hchar := le_threeBytes begins hlong (UInt8.lt_iff_toNat_lt.mp hshort) c
    have hstretch : ∀ x ∈ [a, b, c], 0x80 ≤ x.toNat := by
      simp [le_of_not_lt ha, begins.tail.1, htail hc]
    exact Decodes.other (by simp) hstretch hchar ih
  | case10 a ha low high hlead b hb hlong c hc hlonger =>
    have begins := hbegins hlead hb
    exact Decodes.nil.gap [a, b, c] (by simp) (by simp [le_of_not_lt ha, begins.tail.1, htail hc])
  | case11 a ha low high hlead b hb hlong c hc hlonger d rest hd ih =>
    have begins := hbegins hlead hb
    exact ih.gap [a, b, c] (by simp) (by simp [le_of_not_lt ha, begins.tail.1, htail hc])
  | case12 a ha low high hlead b hb hlong c hc hlonger d rest hd ih =>
    have begins := hbegins hlead hb
    have hlonger : 0xF0 ≤ a.toNat :=
      Nat.le_of_not_lt fun h => hlonger (UInt8.lt_iff_toNat_lt.mpr h)
    have hchar := le_fourBytes begins hlonger c d
    have hstretch : ∀ x ∈ [a, b, c, d], 0x80 ≤ x.toNat := by
      simp [le_of_not_lt ha, begins.tail.1, htail hc, htail hd]
    exact Decodes.other (by simp) hstretch hchar ih

/-- The text that is made of some bytes shows them. -/
theorem decodes_decodeLossy (bytes : List UInt8) : Decodes bytes (decodeLossy bytes).toList := by
  rw [decodeLossy, String.toList_ofList]
  exact decodes_pieces bytes

/-! ## Cutting at an ASCII character -/

theorem toNat_ofNat_of_lt {b : UInt8} (hb : b.toNat < 0x80) :
    (Char.ofNat b.toNat).toNat = b.toNat :=
  toNat_ofNat (.inl (by omega))

namespace Decodes

variable {bytes : List UInt8} {chars : List Char}

/-- Only no bytes are shown as nothing. -/
theorem eq_nil_iff (h : Decodes bytes chars) : chars = [] ↔ bytes = [] := by
  cases h with
  | nil => simp
  | ascii hb h => simp
  | other hne hstretch hc h => simp [hne]

variable {a : UInt8} (ha : a.toNat < 0x80)

include ha

theorem mem_iff (h : Decodes bytes chars) : Char.ofNat a.toNat ∈ chars ↔ a ∈ bytes := by
  induction h with
  | nil => simp
  | @ascii b bytes chars hb h ih =>
    have hsame : Char.ofNat a.toNat = Char.ofNat b.toNat ↔ a = b := by
      rw [← Char.toNat_inj, toNat_ofNat_of_lt ha, toNat_ofNat_of_lt hb, UInt8.toNat_inj]
    rw [List.mem_cons, List.mem_cons, ih, hsame]
  | @other stretch bytes c chars hne hstretch hc h ih =>
    have hchar : Char.ofNat a.toNat ≠ c := by
      rintro rfl
      rw [toNat_ofNat_of_lt ha] at hc
      omega
    have hbyte : a ∉ stretch := by
      intro hmem
      have := hstretch a hmem
      omega
    rw [List.mem_cons, List.mem_append, ih]
    simp only [hchar, hbyte, false_or]

/-- Where the text can be cut at an ASCII character, the bytes can. -/
theorem cut_chars (h : Decodes bytes chars) {stem rest : List Char}
    (hchars : chars = stem ++ Char.ofNat a.toNat :: rest) :
    ∃ front back, bytes = front ++ a :: back ∧ Decodes front stem ∧ Decodes back rest := by
  induction h generalizing stem with
  | nil => simp at hchars
  | @ascii b bytes chars hb h ih =>
    cases stem with
    | nil =>
      obtain ⟨hchar, rfl⟩ := List.cons.inj hchars
      rw [← Char.toNat_inj, toNat_ofNat_of_lt ha, toNat_ofNat_of_lt hb, UInt8.toNat_inj] at hchar
      exact ⟨[], bytes, hchar ▸ rfl, .nil, h⟩
    | cons c stem =>
      obtain ⟨rfl, hmore⟩ := List.cons.inj hchars
      obtain ⟨front, back, rfl, hfront, hback⟩ := ih hmore
      exact ⟨b :: front, back, rfl, .ascii hb hfront, hback⟩
  | @other stretch bytes c chars hne hstretch hc h ih =>
    cases stem with
    | nil =>
      obtain ⟨rfl, _⟩ := List.cons.inj hchars
      rw [toNat_ofNat_of_lt ha] at hc
      omega
    | cons d stem =>
      obtain ⟨rfl, hmore⟩ := List.cons.inj hchars
      obtain ⟨front, back, rfl, hfront, hback⟩ := ih hmore
      exact ⟨stretch ++ front, back, (List.append_assoc ..).symm, .other hne hstretch hc hfront,
        hback⟩

/-- And where the bytes can be cut at one, the text can. -/
theorem cut_bytes (h : Decodes bytes chars) {front back : List UInt8}
    (hbytes : bytes = front ++ a :: back) :
    ∃ stem rest, chars = stem ++ Char.ofNat a.toNat :: rest ∧ Decodes front stem ∧
      Decodes back rest := by
  induction h generalizing front with
  | nil => simp at hbytes
  | @ascii b bytes chars hb h ih =>
    cases front with
    | nil =>
      obtain ⟨rfl, rfl⟩ := List.cons.inj hbytes
      exact ⟨[], chars, rfl, .nil, h⟩
    | cons c front =>
      obtain ⟨rfl, hmore⟩ := List.cons.inj hbytes
      obtain ⟨stem, rest, rfl, hstem, hrest⟩ := ih hmore
      exact ⟨Char.ofNat b.toNat :: stem, rest, rfl, .ascii hb hstem, hrest⟩
  | @other stretch bytes c chars hne hstretch hc h ih =>
    have hbyte : a ∉ stretch := by
      intro hmem
      have := hstretch a hmem
      omega
    -- the cut is behind the stretch, since the byte is none of its own
    obtain ⟨front, rfl, hmore⟩ : ∃ more, front = stretch ++ more ∧ bytes = more ++ a :: back := by
      rcases List.append_eq_append_iff.mp hbytes with ⟨more, hfront, hmore⟩ | ⟨more, rfl, hmore⟩
      · exact ⟨more, hfront, hmore⟩
      · cases more with
        | nil => exact ⟨[], by simp, hmore.symm⟩
        | cons d more =>
          obtain ⟨rfl, _⟩ := List.cons.inj hmore
          exact absurd (by simp) hbyte
    obtain ⟨stem, rest, rfl, hstem, hrest⟩ := ih hmore
    exact ⟨c :: stem, rest, rfl, .other hne hstretch hc hstem, hrest⟩

end Decodes

end ScanClient.Text.Utf8
