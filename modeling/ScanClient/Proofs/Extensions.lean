import ScanClient.Proofs.Decoding
import ScanClient.Proofs.Paths

/-!
# Extensions of file names

A file is judged by what stands behind the last dot of its name. The name is recorded as text,
whatever bytes it is, and still the verdict is that on the bytes: a malformed stretch takes no dot
and no letter in, and nothing malformed is shown as one.
-/

namespace ScanClient

/-! ## Behind the last dot -/

theorem afterLastDot_append (stem : List Char) {extension : List Char} (h : '.' ∉ extension) :
    afterLastDot (stem ++ '.' :: extension) = some extension := by
  have hplain : ∀ c ∈ extension.reverse, (c != '.') = true := by
    intro c hc
    rw [bne_iff_ne]
    rintro rfl
    exact h (List.mem_reverse.mp hc)
  have hreverse : (stem ++ '.' :: extension).reverse =
      extension.reverse ++ '.' :: stem.reverse := by
    simp
  rw [afterLastDot, if_pos (by simp), hreverse, List.takeWhile_append_of_pos hplain,
    List.takeWhile_cons_of_neg (by decide), List.append_nil, List.reverse_reverse]

theorem afterLastDot_eq_some_iff {name extension : List Char} :
    afterLastDot name = some extension ↔
      ∃ stem, name = stem ++ '.' :: extension ∧ '.' ∉ extension := by
  constructor
  · intro h
    have hdot : '.' ∈ name := by
      apply Classical.byContradiction
      intro hnone
      rw [afterLastDot, if_neg (by simpa using hnone)] at h
      cases h
    -- the last dot is the first one from behind
    obtain ⟨before, after, hreverse, hlast⟩ :=
      List.eq_append_cons_of_mem (List.mem_reverse.mpr hdot)
    have hname : name = after.reverse ++ '.' :: before.reverse := by
      rw [← List.reverse_reverse name, hreverse]
      simp
    have hbefore : '.' ∉ before.reverse := fun hmem => hlast (List.mem_reverse.mp hmem)
    rw [hname, afterLastDot_append _ hbefore] at h
    cases h
    exact ⟨_, hname, hbefore⟩
  · rintro ⟨stem, rfl, h⟩
    exact afterLastDot_append stem h

theorem afterLastDot_eq_none_iff {name : List Char} : afterLastDot name = none ↔ '.' ∉ name := by
  simp [afterLastDot]

theorem extensionOf_eq_some_iff {name extension : String} :
    extensionOf name = some extension ↔
      extension ≠ "" ∧
        ∃ stem, name.toList = stem ++ '.' :: extension.toList ∧ '.' ∉ extension.toList := by
  rw [← afterLastDot_eq_some_iff, extensionOf]
  cases h : afterLastDot name.toList with
  | none => simp
  | some found =>
    cases found with
    | nil =>
      simp only [reduceCtorEq, Option.some.injEq, false_iff, not_and]
      intro hne hnil
      exact hne (String.toList_eq_nil_iff.mp hnil.symm)
    | cons c more =>
      simp only [Option.some.injEq]
      constructor
      · rintro rfl
        exact ⟨by simp, by simp⟩
      · rintro ⟨_, hmore⟩
        rw [hmore, String.ofList_toList]

theorem extensionOf_eq_none_iff {name : String} :
    extensionOf name = none ↔ '.' ∉ name.toList ∨ ∃ stem, name.toList = stem ++ ['.'] := by
  rw [← afterLastDot_eq_none_iff, extensionOf]
  cases h : afterLastDot name.toList with
  | none => simp
  | some found =>
    cases found with
    | nil =>
      obtain ⟨stem, hname, _⟩ := afterLastDot_eq_some_iff.mp h
      exact ⟨fun _ => .inr ⟨stem, hname⟩, fun _ => rfl⟩
    | cons c more =>
      simp only [reduceCtorEq, false_or, false_iff, not_exists]
      intro other hother
      have hnothing := afterLastDot_append other (List.not_mem_nil (a := '.'))
      rw [← hother, h] at hnothing
      cases hnothing

/-! ## The verdict on a name -/

namespace Limits

variable {limits : Limits} {name : String} {size : Nat}

theorem check_of_none (h : extensionOf name = none) :
    limits.check name size = .error (.missingExtension name limits.allowedText) := by
  rw [check, h]

theorem check_of_not_allowed {extension : String} (h : extensionOf name = some extension)
    (hallowed : limits.allows extension = false) :
    limits.check name size = .error (.unsupportedExtension extension limits.allowedText) := by
  simp only [check, h, hallowed, Bool.not_false, if_true]

/-- A name that is accepted leaves only the size to be checked. -/
theorem check_of_allowed {extension : String} (h : extensionOf name = some extension)
    (hallowed : limits.allows extension = true) :
    limits.check name size =
      if limits.maxFileSize < size then .error (.tooLarge size limits.maxFileSize) else .ok () := by
  simp only [check, h, hallowed, Bool.not_true, Bool.false_eq_true, if_false]

theorem check_missing_iff :
    (∃ given allowed, limits.check name size = .error (.missingExtension given allowed)) ↔
      extensionOf name = none := by
  cases h : extensionOf name with
  | none => exact ⟨fun _ => rfl, fun _ => ⟨_, _, check_of_none h⟩⟩
  | some extension =>
    simp only [reduceCtorEq, iff_false]
    rintro ⟨given, allowed, hcheck⟩
    cases hallowed : limits.allows extension with
    | false =>
      rw [check_of_not_allowed h hallowed] at hcheck
      cases hcheck
    | true =>
      rw [check_of_allowed h hallowed] at hcheck
      split at hcheck <;> cases hcheck

theorem check_allowed_iff :
    (limits.check name size =
        if limits.maxFileSize < size then .error (.tooLarge size limits.maxFileSize) else .ok ()) ↔
      ∃ extension, extensionOf name = some extension ∧ limits.allows extension = true := by
  constructor
  · intro hcheck
    cases h : extensionOf name with
    | none =>
      rw [check_of_none h] at hcheck
      split at hcheck <;> cases hcheck
    | some extension =>
      refine ⟨extension, rfl, ?_⟩
      cases hallowed : limits.allows extension with
      | false =>
        rw [check_of_not_allowed h hallowed] at hcheck
        split at hcheck <;> cases hcheck
      | true => rfl
  · rintro ⟨extension, h, hallowed⟩
    exact check_of_allowed h hallowed

theorem allows_iff {extension : String} :
    limits.allows extension = true ↔
      ∃ allowed ∈ limits.allowedExtensions,
        extension.toList.map Char.toLower = allowed.toList.map Char.toLower := by
  rw [allows, List.any_eq_true]
  constructor
  · rintro ⟨allowed, hmem, hsame⟩
    exact ⟨allowed, hmem, (eq_of_beq hsame).symm⟩
  · rintro ⟨allowed, hmem, hsame⟩
    exact ⟨allowed, hmem, beq_iff_eq.mpr hsame.symm⟩

end Limits

/-! ## Letters and bytes -/

/-- A letter from A to Z as the small letter. -/
def lowerCode (n : Nat) : Nat := if 0x41 ≤ n ∧ n ≤ 0x5A then n + 0x20 else n

/-- The byte of a letter from A to Z as that of the small letter. -/
def lowerByte (b : UInt8) : UInt8 := if 0x41 ≤ b ∧ b ≤ 0x5A then b + 0x20 else b

theorem toNat_lowerByte (b : UInt8) : (lowerByte b).toNat = lowerCode b.toNat := by
  unfold lowerByte lowerCode
  by_cases h : 0x41 ≤ b.toNat ∧ b.toNat ≤ 0x5A
  · have hletter : 0x41 ≤ b ∧ b ≤ 0x5A :=
      ⟨UInt8.le_iff_toNat_le.mpr h.1, UInt8.le_iff_toNat_le.mpr h.2⟩
    rw [if_pos h, if_pos hletter, UInt8.toNat_add]
    show (b.toNat + 0x20) % 256 = b.toNat + 0x20
    omega
  · have hother : ¬(0x41 ≤ b ∧ b ≤ 0x5A) := fun hletter =>
      h ⟨UInt8.le_iff_toNat_le.mp hletter.1, UInt8.le_iff_toNat_le.mp hletter.2⟩
    rw [if_neg h, if_neg hother]

theorem toNat_toLower (c : Char) : c.toLower.toNat = lowerCode c.toNat := by
  unfold Char.toLower lowerCode
  by_cases h : 0x41 ≤ c.toNat ∧ c.toNat ≤ 0x5A
  · have hletter : c.val ≥ 'A'.val ∧ c.val ≤ 'Z'.val :=
      ⟨UInt32.le_iff_toNat_le.mpr h.1, UInt32.le_iff_toNat_le.mpr h.2⟩
    rw [if_pos h, dif_pos hletter]
    show (c.val + 0x20).toNat = c.toNat + 0x20
    rw [UInt32.toNat_add]
    show (c.toNat + 0x20) % 2 ^ 32 = c.toNat + 0x20
    omega
  · have hother : ¬(c.val ≥ 'A'.val ∧ c.val ≤ 'Z'.val) := fun hletter =>
      h ⟨UInt32.le_iff_toNat_le.mp hletter.1, UInt32.le_iff_toNat_le.mp hletter.2⟩
    rw [if_neg h, dif_neg hother]

/-! ## Comparing a text with decoded bytes -/

section

open Text.Utf8

/-- An ASCII character is one byte. -/
theorem encode_plain {c : Char} (hc : c.toNat < 0x80) (text : List Char) :
    encode (c :: text) = UInt8.ofNat c.toNat :: encode text := by
  have hbyte : String.utf8EncodeChar c = [UInt8.ofNat c.toNat] :=
    if_pos (show c.val.toNat ≤ 127 from Nat.le_of_lt_succ hc)
  rw [encode, List.flatMap_cons, hbyte]
  rfl

theorem lowerCode_lt {n : Nat} (h : n < 0x80) : lowerCode n < 0x80 := by
  unfold lowerCode
  split <;> omega

theorem le_lowerCode {n : Nat} (h : 0x80 ≤ n) : 0x80 ≤ lowerCode n := by
  unfold lowerCode
  split <;> omega

/-- Bytes are an ASCII text up to the case of its letters if they are shown as such a text. -/
theorem Text.Utf8.Decodes.lower_iff {bytes : List UInt8} {chars : List Char}
    (h : Decodes bytes chars) {text : List Char} (hplain : ∀ c ∈ text, c.toNat < 0x80) :
    chars.map Char.toLower = text.map Char.toLower ↔
      bytes.map lowerByte = (encode text).map lowerByte := by
  induction h generalizing text with
  | nil =>
    cases text with
    | nil => simp [encode]
    | cons c text => simp [encode_plain (hplain c List.mem_cons_self)]
  | @ascii b bytes chars hb h ih =>
    cases text with
    | nil => simp [encode]
    | cons c text =>
      have hc : c.toNat < 0x80 := hplain c List.mem_cons_self
      have hhead : (Char.ofNat b.toNat).toLower = c.toLower ↔
          lowerByte b = lowerByte (UInt8.ofNat c.toNat) := by
        rw [← Char.toNat_inj, toNat_toLower, toNat_toLower, toNat_ofNat_of_lt hb,
          ← UInt8.toNat_inj, toNat_lowerByte, toNat_lowerByte, UInt8.toNat_ofNat',
          Nat.mod_eq_of_lt (by omega)]
      have htail := ih fun d hd => hplain d (List.mem_cons_of_mem c hd)
      rw [encode_plain hc, List.map_cons, List.map_cons, List.map_cons, List.map_cons,
        List.cons_eq_cons, List.cons_eq_cons, hhead, htail]
  | @other stretch bytes d chars hne hstretch hd h ih =>
    obtain ⟨b, stretch, rfl⟩ := List.exists_cons_of_ne_nil hne
    cases text with
    | nil => simp [encode]
    | cons c text =>
      -- neither the character nor the first byte is ASCII
      have hc : lowerCode c.toNat < 0x80 := lowerCode_lt (hplain c List.mem_cons_self)
      have hchar : d.toLower ≠ c.toLower := by
        intro heq
        have := le_lowerCode hd
        rw [← Char.toNat_inj, toNat_toLower, toNat_toLower] at heq
        omega
      have hbyte : lowerByte b ≠ lowerByte (UInt8.ofNat c.toNat) := by
        intro heq
        have := le_lowerCode (hstretch b List.mem_cons_self)
        have hsmall : c.toNat < 0x80 := hplain c List.mem_cons_self
        rw [← UInt8.toNat_inj, toNat_lowerByte, toNat_lowerByte, UInt8.toNat_ofNat',
          Nat.mod_eq_of_lt (by omega)] at heq
        omega
      rw [encode_plain (hplain c List.mem_cons_self)]
      simp [hchar, hbyte]

end

/-! ## The main result -/

section

open Files Text.Utf8

/-- The byte of a dot. -/
def dotByte : UInt8 := 0x2E

theorem dotByte_lt : dotByte.toNat < 0x80 := by decide

theorem ofNat_dotByte : Char.ofNat dotByte.toNat = '.' := by decide

/-- A file on disk is known by the last name of its path. -/
theorem ScanFile.name_of_select {tree : Tree} {path : List UInt8} {file : ScanFile} {name : Name}
    (h : select tree path = .ok file) (hname : lastName path = some name) :
    file.name = decodeLossy name := by
  unfold select at h
  split at h
  · cases h
  · rw [hname] at h
    cases h
    rfl
  · cases h

variable {bytes : List UInt8} {name : String} (shown : Decodes bytes name.toList)

include shown

/-- The extension is missing from a name as it is from the bytes. -/
theorem extensionOf_none_iff_bytes :
    extensionOf name = none ↔ dotByte ∉ bytes ∨ bytes.getLast? = some dotByte := by
  have hdot : '.' ∈ name.toList ↔ dotByte ∈ bytes := by
    rw [← ofNat_dotByte]
    exact shown.mem_iff dotByte_lt
  have hlast : (∃ stem, name.toList = stem ++ ['.']) ↔ bytes.getLast? = some dotByte := by
    rw [List.getLast?_eq_some_iff]
    constructor
    · rintro ⟨stem, hstem⟩
      obtain ⟨front, back, rfl, _, hback⟩ := shown.cut_chars dotByte_lt hstem
      exact ⟨front, by rw [hback.eq_nil_iff.mp rfl]⟩
    · rintro ⟨front, rfl⟩
      obtain ⟨stem, rest, hchars, _, hrest⟩ := shown.cut_bytes dotByte_lt rfl
      rw [hrest.eq_nil_iff.mpr rfl, ofNat_dotByte] at hchars
      exact ⟨stem, hchars⟩
  rw [extensionOf_eq_none_iff, hdot, hlast]

/-- The extension of a name is allowed as that of the bytes is. -/
theorem allows_iff_bytes {limits : Limits}
    (hplain : ∀ allowed ∈ limits.allowedExtensions,
      allowed ≠ "" ∧ ∀ c ∈ allowed.toList, c.toNat < 0x80) :
    (∃ extension, extensionOf name = some extension ∧ limits.allows extension = true) ↔
      ∃ stem extension, bytes = stem ++ dotByte :: extension ∧ dotByte ∉ extension ∧
        ∃ allowed ∈ limits.allowedExtensions,
          extension.map lowerByte = (encodeText allowed).map lowerByte := by
  constructor
  · rintro ⟨extension, hextension, hallows⟩
    obtain ⟨_, stem, hname, hdot⟩ := extensionOf_eq_some_iff.mp hextension
    obtain ⟨allowed, hmem, hsame⟩ := Limits.allows_iff.mp hallows
    obtain ⟨front, back, rfl, _, hback⟩ := shown.cut_chars dotByte_lt hname
    have hnone : dotByte ∉ back := by
      rw [← hback.mem_iff dotByte_lt, ofNat_dotByte]
      exact hdot
    have hlower := (hback.lower_iff (hplain allowed hmem).2).mp hsame
    exact ⟨front, back, rfl, hnone, allowed, hmem, hlower⟩
  · rintro ⟨front, back, rfl, hnone, allowed, hmem, hsame⟩
    obtain ⟨stem, extension, hname, _, hback⟩ := shown.cut_bytes dotByte_lt rfl
    rw [ofNat_dotByte] at hname
    have hdot : '.' ∉ extension := by
      rw [← ofNat_dotByte, hback.mem_iff dotByte_lt]
      exact hnone
    have hlower := (hback.lower_iff (hplain allowed hmem).2).mpr hsame
    -- what is the same as an extension that is allowed is not empty
    have hne : String.ofList extension ≠ "" := by
      rintro hempty
      rw [String.ofList_eq_empty_iff.mp hempty] at hlower
      have hnil : allowed.toList = [] := List.map_eq_nil_iff.mp hlower.symm
      exact (hplain allowed hmem).1 (String.toList_eq_nil_iff.mp hnil)
    refine ⟨String.ofList extension, extensionOf_eq_some_iff.mpr ⟨hne, stem, ?_, ?_⟩,
      Limits.allows_iff.mpr ⟨allowed, hmem, ?_⟩⟩
    · rw [String.toList_ofList]
      exact hname
    · rw [String.toList_ofList]
      exact hdot
    · rw [String.toList_ofList]
      exact hlower

end

section

open Files Text.Utf8

/-- Whatever bytes the last name of a path to a regular file is: the extension of the file is
accepted if the bytes behind the last dot are one of the extensions that are allowed, up to the case
of the letters from A to Z, and it is missing if there is no dot or nothing behind the last one. That
the name is recorded as text makes no difference. -/
theorem verdict_on_bytes {limits : Limits}
    (hplain : ∀ allowed ∈ limits.allowedExtensions,
      allowed ≠ "" ∧ ∀ c ∈ allowed.toList, c.toNat < 0x80)
    {tree : Tree} {path : List UInt8} {file : ScanFile} {name : Name}
    (hselect : ScanFile.select tree path = .ok file) (hname : ScanFile.lastName path = some name)
    (size : Nat) :
    file.name = decodeLossy name ∧
    ((limits.check file.name size =
        if limits.maxFileSize < size then .error (.tooLarge size limits.maxFileSize) else .ok ()) ↔
      ∃ stem extension, name = stem ++ dotByte :: extension ∧ dotByte ∉ extension ∧
        ∃ allowed ∈ limits.allowedExtensions,
          extension.map lowerByte = (encodeText allowed).map lowerByte) ∧
    ((∃ given allowed, limits.check file.name size = .error (.missingExtension given allowed)) ↔
      dotByte ∉ name ∨ name.getLast? = some dotByte) := by
  have hfile : file.name = decodeLossy name := ScanFile.name_of_select hselect hname
  have shown : Decodes name file.name.toList := by
    rw [hfile]
    exact decodes_decodeLossy name
  refine ⟨hfile, ?_, ?_⟩
  · rw [Limits.check_allowed_iff]
    exact allows_iff_bytes shown hplain
  · rw [Limits.check_missing_iff]
    exact extensionOf_none_iff_bytes shown

/-- A name with two bytes before the dot that begin a character of three. -/
def cutName : Name := [0x61, 0xE2, 0x82, 0x2E, 0x4A, 0x61, 0x72]

theorem cutName_accepted :
    let tree : Tree := ⟨[([cutName], .file (.bytes [0x50, 0x4B]))], []⟩
    ∃ file, ScanFile.select tree cutName = .ok file ∧ file.name = "a\uFFFD.Jar" ∧
      Limits.standard.check file.name file.size = .ok () := by
  intro tree
  have isName : IsName cutName := by decide +kernel
  have hselect : ScanFile.select tree cutName =
      .ok ⟨decodeLossy cutName, 2, .onDisk cutName⟩ := isName.select_alone (by decide)
  have hplain : ∀ allowed ∈ Limits.standard.allowedExtensions,
      allowed ≠ "" ∧ ∀ c ∈ allowed.toList, c.toNat < 0x80 := by
    have hall : (Limits.standard.allowedExtensions.all fun allowed =>
        allowed != "" && allowed.toList.all fun c => c.toNat < 0x80) = true := by
      decide +kernel
    intro allowed hmem
    simpa using List.all_eq_true.mp hall allowed hmem
  obtain ⟨hname, hverdict, _⟩ := verdict_on_bytes hplain hselect isName.lastName_eq 2
  refine ⟨_, hselect, hname.trans (by decide +kernel), hverdict.mpr ?_⟩
  exact ⟨[0x61, 0xE2, 0x82], [0x4A, 0x61, 0x72], rfl, by decide, "jar", by decide,
    by decide +kernel⟩

end

end ScanClient
