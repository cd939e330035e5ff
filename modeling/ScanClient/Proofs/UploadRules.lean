import Mathlib.Data.List.Forall2
import ScanClient.Proofs.Extensions

/-!
# Upload rules

Three things about a file decide whether it may be uploaded: what stands behind the last dot of its
name, which extensions are listed, up to the case of the letters from A to Z, and how large it is.
Nothing else of the name or of the list makes a difference.
-/

namespace ScanClient

/-! ## Equality up to case -/

/-- A letter from A to Z and the small letter to it. -/
def IsCapitalOf (c d : Char) : Prop := 'A' ≤ c ∧ c ≤ 'Z' ∧ d.toNat = c.toNat + 32

/-- One character, or the two cases of one letter from A to Z. -/
def SameLetter (c d : Char) : Prop := c = d ∨ IsCapitalOf c d ∨ IsCapitalOf d c

def Alike (a b : String) : Prop := List.Forall₂ SameLetter a.toList b.toList

theorem isCapitalOf_iff {c d : Char} :
    IsCapitalOf c d ↔ 0x41 ≤ c.toNat ∧ c.toNat ≤ 0x5A ∧ d.toNat = c.toNat + 32 := by
  unfold IsCapitalOf
  rw [Char.le_def, Char.le_def, UInt32.le_iff_toNat_le, UInt32.le_iff_toNat_le]
  exact Iff.rfl

theorem toLower_eq_iff {c d : Char} : c.toLower = d.toLower ↔ SameLetter c d := by
  unfold SameLetter
  rw [← Char.toNat_inj, toNat_toLower, toNat_toLower, isCapitalOf_iff, isCapitalOf_iff,
    ← Char.toNat_inj]
  unfold lowerCode
  split <;> split <;> omega

theorem alike_iff {a b : String} :
    Alike a b ↔ a.toList.map Char.toLower = b.toList.map Char.toLower := by
  have hsame : SameLetter = fun c d => c.toLower = d.toLower := by
    funext c d
    exact propext toLower_eq_iff.symm
  rw [Alike, hsame, ← List.forall₂_eq_eq_eq, List.forall₂_map_left_iff, List.forall₂_map_right_iff]

theorem Alike.refl (a : String) : Alike a a := alike_iff.mpr (Eq.refl _)

theorem Alike.symm {a b : String} (h : Alike a b) : Alike b a :=
  alike_iff.mpr (alike_iff.mp h).symm

theorem Alike.trans {a b c : String} (hab : Alike a b) (hbc : Alike b c) : Alike a c :=
  alike_iff.mpr ((alike_iff.mp hab).trans (alike_iff.mp hbc))

theorem sameLetters_iff {a b : String} : sameLetters a b = true ↔ Alike a b := by
  rw [alike_iff, sameLetters, beq_iff_eq]

theorem SameLetter.eq_of_not_ascii {c d : Char} (h : SameLetter c d)
    (hother : 0x80 ≤ c.toNat ∨ 0x80 ≤ d.toNat) : c = d := by
  unfold SameLetter at h
  rw [isCapitalOf_iff, isCapitalOf_iff] at h
  rw [← Char.toNat_inj] at h ⊢
  omega

/-- No character but the letters from A to Z has another case. -/
theorem Alike.eq_of_not_ascii {a b : String} (h : Alike a b) {i : Nat} {c d : Char}
    (hc : a.toList[i]? = some c) (hd : b.toList[i]? = some d)
    (hother : 0x80 ≤ c.toNat ∨ 0x80 ≤ d.toNat) : c = d := by
  obtain ⟨hi, rfl⟩ := List.getElem?_eq_some_iff.mp hc
  obtain ⟨hj, rfl⟩ := List.getElem?_eq_some_iff.mp hd
  exact (h.get hi hj).eq_of_not_ascii hother

theorem Alike.dot_mem_iff {a b : String} (h : Alike a b) : '.' ∈ a.toList ↔ '.' ∈ b.toList := by
  have hdot : ∀ c : Char, c.toLower = '.' ↔ c = '.' := by
    intro c
    rw [← Char.toNat_inj, ← Char.toNat_inj, toNat_toLower, lowerCode]
    show _ = 46 ↔ _ = 46
    split <;> omega
  have hmem : ∀ s : List Char, '.' ∈ s ↔ '.' ∈ s.map Char.toLower := by
    intro s
    rw [List.mem_map]
    constructor
    · exact fun hs => ⟨'.', hs, by decide⟩
    · rintro ⟨c, hc, hlower⟩
      rwa [(hdot c).mp hlower] at hc
  rw [hmem, hmem b.toList, alike_iff.mp h]

theorem Alike.eq_empty_iff {a b : String} (h : Alike a b) : a = "" ↔ b = "" := by
  have hlength := h.length_eq
  rw [← String.toList_eq_nil_iff, ← String.toList_eq_nil_iff, ← List.length_eq_zero_iff,
    ← List.length_eq_zero_iff, hlength]

/-! ## Extensions -/

/-- The name ends in a dot and the extension, which is not empty and has no dot of its own. -/
def HasExtension (name extension : String) : Prop :=
  extension ≠ "" ∧ '.' ∉ extension.toList ∧ ∃ stem, name = stem ++ "." ++ extension

theorem toList_dotted (stem extension : String) :
    (stem ++ "." ++ extension).toList = stem.toList ++ '.' :: extension.toList := by
  simp

theorem hasExtension_iff {name extension : String} :
    HasExtension name extension ↔ extensionOf name = some extension := by
  rw [extensionOf_eq_some_iff]
  constructor
  · rintro ⟨hne, hdot, stem, rfl⟩
    exact ⟨hne, stem.toList, toList_dotted stem extension, hdot⟩
  · rintro ⟨hne, stem, hname, hdot⟩
    refine ⟨hne, hdot, String.ofList stem, ?_⟩
    rw [← String.toList_inj, toList_dotted, String.toList_ofList, hname]

theorem HasExtension.dotted {name extension : String} (h : HasExtension name extension)
    (stem : String) : HasExtension (stem ++ "." ++ extension) extension :=
  ⟨h.1, h.2.1, stem, rfl⟩

theorem HasExtension.alike {name extension other : String} (h : HasExtension name extension)
    (halike : Alike extension other) (stem : String) :
    HasExtension (stem ++ "." ++ other) other :=
  ⟨mt halike.eq_empty_iff.mpr h.1, mt halike.dot_mem_iff.mpr h.2.1, stem, rfl⟩

/-- A name has one extension at most. -/
theorem HasExtension.iff {name found extension : String} (h : HasExtension name found) :
    HasExtension name extension ↔ extension = found := by
  constructor
  · intro hother
    rw [hasExtension_iff] at h hother
    exact Option.some.inj (hother.symm.trans h)
  · rintro rfl
    exact h

theorem extensionOf_eq_none_iff_name {name : String} :
    extensionOf name = none ↔ '.' ∉ name.toList ∨ ∃ stem, name = stem ++ "." := by
  rw [extensionOf_eq_none_iff]
  apply or_congr Iff.rfl
  constructor
  · rintro ⟨stem, hname⟩
    refine ⟨String.ofList stem, ?_⟩
    rw [← String.toList_inj, String.toList_append, String.toList_ofList, hname]
    rfl
  · rintro ⟨stem, rfl⟩
    exact ⟨stem.toList, by simp⟩

/-! ## Verdicts -/

/-- What is decided about a file, apart from the names and lists that the messages quote. -/
inductive Verdict where
  | accepted
  | missingExtension
  | unsupportedExtension
  | tooLarge
  deriving DecidableEq, Repr

namespace Limits

def verdict (limits : Limits) (name : String) (size : Nat) : Verdict :=
  match limits.check name size with
  | .ok () => .accepted
  | .error (.missingExtension ..) => .missingExtension
  | .error (.unsupportedExtension ..) => .unsupportedExtension
  | .error (.tooLarge ..) => .tooLarge

def Admits (limits : Limits) (extension : String) : Prop :=
  ∃ allowed ∈ limits.allowedExtensions, Alike allowed extension

/-- Whatever extension the one list has, the other has it as well, up to case. -/
def Covers (limits others : Limits) : Prop :=
  ∀ allowed ∈ others.allowedExtensions, limits.Admits allowed

variable {limits others : Limits} {name extension : String} {size : Nat}

theorem allows_iff_admits : limits.allows extension = true ↔ limits.Admits extension := by
  rw [allows, List.any_eq_true]
  exact exists_congr fun allowed => and_congr Iff.rfl sameLetters_iff

theorem Admits.alike {other : String} (h : limits.Admits extension)
    (halike : Alike extension other) : limits.Admits other := by
  obtain ⟨allowed, hmem, hallowed⟩ := h
  exact ⟨allowed, hmem, hallowed.trans halike⟩

/-- In another order or more often, the same entries are the same extensions. -/
theorem Covers.of_subset (h : others.allowedExtensions ⊆ limits.allowedExtensions) :
    limits.Covers others :=
  fun allowed hmem => ⟨allowed, h hmem, Alike.refl allowed⟩

theorem Covers.admits (h : limits.Covers others) (hadmits : others.Admits extension) :
    limits.Admits extension := by
  obtain ⟨allowed, hmem, halike⟩ := hadmits
  exact (h allowed hmem).alike halike

/-- All four answers at once: which one is given, and what it carries. -/
theorem check_eq (limits : Limits) (name : String) (size : Nat) :
    (extensionOf name = none ∧
      limits.check name size = .error (.missingExtension name limits.allowedText)) ∨
    ∃ extension, HasExtension name extension ∧
      (¬limits.Admits extension ∧
        limits.check name size = .error (.unsupportedExtension extension limits.allowedText) ∨
      limits.Admits extension ∧ limits.maxFileSize < size ∧
        limits.check name size = .error (.tooLarge size limits.maxFileSize) ∨
      limits.Admits extension ∧ size ≤ limits.maxFileSize ∧ limits.check name size = .ok ()) := by
  cases h : extensionOf name with
  | none => exact .inl ⟨rfl, check_of_none h⟩
  | some extension =>
    refine .inr ⟨extension, hasExtension_iff.mpr h, ?_⟩
    cases hallows : limits.allows extension with
    | false =>
      refine .inl ⟨?_, check_of_not_allowed h hallows⟩
      rw [← allows_iff_admits, hallows]
      exact Bool.false_ne_true
    | true =>
      have hadmits := allows_iff_admits.mp hallows
      by_cases hsize : limits.maxFileSize < size
      · refine .inr (.inl ⟨hadmits, hsize, ?_⟩)
        rw [check_of_allowed h hallows, if_pos hsize]
      · refine .inr (.inr ⟨hadmits, by omega, ?_⟩)
        rw [check_of_allowed h hallows, if_neg hsize]

theorem check_ok_iff :
    limits.check name size = .ok () ↔
      ∃ extension, HasExtension name extension ∧ limits.Admits extension ∧
        size ≤ limits.maxFileSize := by
  obtain ⟨hnone, hcheck⟩ | ⟨found, hname, hcheck⟩ := check_eq limits name size
  · simp [hcheck, hasExtension_iff, hnone]
  · simp only [hname.iff, exists_eq_left]
    obtain ⟨hadmits, hcheck⟩ | ⟨hadmits, hsize, hcheck⟩ | ⟨hadmits, hsize, hcheck⟩ := hcheck
    · simp [hcheck, hadmits]
    · simp [hcheck, hsize]
    · simp [hcheck, hadmits, hsize]

theorem check_unsupported_iff :
    (∃ allowed, limits.check name size = .error (.unsupportedExtension extension allowed)) ↔
      HasExtension name extension ∧ ¬limits.Admits extension := by
  obtain ⟨hnone, hcheck⟩ | ⟨found, hname, hcheck⟩ := check_eq limits name size
  · simp [hcheck, hasExtension_iff, hnone]
  · rw [hname.iff]
    obtain ⟨hadmits, hcheck⟩ | ⟨hadmits, -, hcheck⟩ | ⟨hadmits, -, hcheck⟩ := hcheck
    · rw [hcheck]
      constructor
      · rintro ⟨allowed, h⟩
        cases h
        exact ⟨rfl, hadmits⟩
      · rintro ⟨rfl, -⟩
        exact ⟨limits.allowedText, rfl⟩
    -- an extension that is admitted is not the one complained of
    all_goals
      simp only [hcheck, reduceCtorEq, Except.error.injEq, exists_false, false_iff,
        not_and_not_right]
      rintro rfl
      exact hadmits

theorem check_tooLarge_iff {given max : Nat} :
    limits.check name size = .error (.tooLarge given max) ↔
      given = size ∧ max = limits.maxFileSize ∧ limits.maxFileSize < size ∧
        ∃ extension, HasExtension name extension ∧ limits.Admits extension := by
  obtain ⟨hnone, hcheck⟩ | ⟨found, hname, hcheck⟩ := check_eq limits name size
  · simp [hcheck, hasExtension_iff, hnone]
  · simp only [hname.iff, exists_eq_left]
    obtain ⟨hadmits, hcheck⟩ | ⟨hadmits, hsize, hcheck⟩ | ⟨hadmits, hsize, hcheck⟩ := hcheck
    · simp [hcheck, hadmits]
    · rw [hcheck]
      constructor
      · intro h
        cases h
        exact ⟨rfl, rfl, hsize, hadmits⟩
      · rintro ⟨rfl, rfl, -⟩
        rfl
    · simp [hcheck, Nat.not_lt.mpr hsize]

/-! ## What a verdict depends on -/

theorem verdict_of_none (h : extensionOf name = none) :
    limits.verdict name size = .missingExtension := by
  rw [verdict, check_of_none h]

theorem verdict_of_unsupported (h : HasExtension name extension)
    (hadmits : ¬limits.Admits extension) :
    limits.verdict name size = .unsupportedExtension := by
  obtain ⟨allowed, hcheck⟩ := check_unsupported_iff.mpr ⟨h, hadmits⟩
  rw [verdict, hcheck]

theorem verdict_of_admits (h : HasExtension name extension) (hadmits : limits.Admits extension) :
    limits.verdict name size =
      if limits.maxFileSize < size then .tooLarge else .accepted := by
  by_cases hsize : limits.maxFileSize < size
  · rw [verdict, check_tooLarge_iff.mpr ⟨rfl, rfl, hsize, extension, h, hadmits⟩, if_pos hsize]
  · rw [verdict, check_ok_iff.mpr ⟨extension, h, hadmits, by omega⟩, if_neg hsize]

theorem verdict_congr {name' extension' : String} (h : HasExtension name extension)
    (h' : HasExtension name' extension')
    (hadmits : limits.Admits extension ↔ others.Admits extension')
    (hmax : limits.maxFileSize = others.maxFileSize) :
    limits.verdict name size = others.verdict name' size := by
  by_cases hext : limits.Admits extension
  · rw [verdict_of_admits h hext, verdict_of_admits h' (hadmits.mp hext), hmax]
  · rw [verdict_of_unsupported h hext, verdict_of_unsupported h' (mt hadmits.mpr hext)]

/-- The list counts for nothing but the extensions that it admits. -/
theorem verdict_eq_of_admits (hmax : limits.maxFileSize = others.maxFileSize)
    (h : ∀ extension, HasExtension name extension →
      (limits.Admits extension ↔ others.Admits extension)) :
    limits.verdict name size = others.verdict name size := by
  cases hname : extensionOf name with
  | none => rw [verdict_of_none hname, verdict_of_none hname]
  | some extension =>
    have hext := hasExtension_iff.mpr hname
    exact verdict_congr hext hext (h extension hext) hmax

theorem check_dotted (h : HasExtension name extension) (stem : String) :
    limits.check (stem ++ "." ++ extension) size = limits.check name size := by
  have hdotted := hasExtension_iff.mp (h.dotted stem)
  rw [hasExtension_iff] at h
  simp only [check, h, hdotted]

/-- No name has an extension that is empty or has a dot, so an entry of this kind is of no use. -/
theorem not_alike_of_degenerate {entry : String} (h : entry = "" ∨ '.' ∈ entry.toList)
    (hname : HasExtension name extension) : ¬Alike entry extension := by
  intro halike
  cases h with
  | inl hempty => exact hname.1 (halike.eq_empty_iff.mp hempty)
  | inr hdot => exact hname.2.1 (halike.dot_mem_iff.mp hdot)

/-! ## The main result -/

/-- A file is accepted if its name has an extension, this is listed up to case, and its size is
within the limit; the first of these that fails is what is wrong with it. Neither the rest of the
name nor the case of the extension counts for the verdict, nor the case of the entries, their order
or how often they stand in the list, nor an entry that is empty or has a dot. -/
theorem upload_rules (limits : Limits) (name : String) (size : Nat) :
    (limits.check name size = .ok () ↔
      ∃ extension, HasExtension name extension ∧ limits.Admits extension ∧
        size ≤ limits.maxFileSize) ∧
    ((∃ given allowed, limits.check name size = .error (.missingExtension given allowed)) ↔
      '.' ∉ name.toList ∨ ∃ stem, name = stem ++ ".") ∧
    (∀ extension,
      (∃ allowed, limits.check name size = .error (.unsupportedExtension extension allowed)) ↔
        HasExtension name extension ∧ ¬limits.Admits extension) ∧
    (∀ given max, limits.check name size = .error (.tooLarge given max) ↔
      given = size ∧ max = limits.maxFileSize ∧ limits.maxFileSize < size ∧
        ∃ extension, HasExtension name extension ∧ limits.Admits extension) ∧
    (∀ extension stem, HasExtension name extension →
      limits.check (stem ++ "." ++ extension) size = limits.check name size) ∧
    (∀ extension other stem, HasExtension name extension → Alike extension other →
      limits.verdict (stem ++ "." ++ other) size = limits.verdict name size) ∧
    (∀ others : Limits, others.maxFileSize = limits.maxFileSize → others.Covers limits →
      limits.Covers others → others.verdict name size = limits.verdict name size) ∧
    (∀ others : Limits, others.maxFileSize = limits.maxFileSize →
      others.allowedExtensions ⊆ limits.allowedExtensions →
      limits.allowedExtensions ⊆ others.allowedExtensions →
      others.verdict name size = limits.verdict name size) ∧
    (∀ before entry after, limits.allowedExtensions = before ++ entry :: after →
      entry = "" ∨ '.' ∈ entry.toList →
      ({ limits with allowedExtensions := before ++ after } : Limits).verdict name size =
        limits.verdict name size) ∧
    ∀ allowed ∈ limits.allowedExtensions, ∀ extension, sameLetters allowed extension = true →
      ∀ (i : Nat) (c d : Char), allowed.toList[i]? = some c → extension.toList[i]? = some d →
        0x80 ≤ c.toNat ∨ 0x80 ≤ d.toNat → c = d := by
  have hlisted : ∀ others : Limits, others.maxFileSize = limits.maxFileSize →
      others.Covers limits → limits.Covers others →
      others.verdict name size = limits.verdict name size := by
    intro others hmax hcovers hcovered
    exact verdict_eq_of_admits hmax fun _ _ => ⟨hcovered.admits, hcovers.admits⟩
  refine ⟨check_ok_iff, ?_, fun _ => check_unsupported_iff, fun _ _ => check_tooLarge_iff,
    fun _ stem hname => check_dotted hname stem, ?_, hlisted, ?_, ?_, ?_⟩
  · rw [check_missing_iff, extensionOf_eq_none_iff_name]
  · intro extension other stem hname halike
    apply verdict_congr (hname.alike halike stem) hname _ rfl
    exact ⟨fun h => h.alike halike.symm, fun h => h.alike halike⟩
  · intro others hmax hsub hsup
    exact hlisted others hmax (.of_subset hsup) (.of_subset hsub)
  · intro before entry after hlist hentry
    refine verdict_eq_of_admits (Eq.refl limits.maxFileSize) fun extension hname => ?_
    have hnot := not_alike_of_degenerate hentry hname
    unfold Admits
    rw [hlist]
    have hsub : (before ++ after).Sublist (before ++ entry :: after) :=
      (List.sublist_cons_self entry after).append_left before
    constructor
    · rintro ⟨allowed, hmem, halike⟩
      exact ⟨allowed, hsub.mem hmem, halike⟩
    · rintro ⟨allowed, hmem, halike⟩
      -- the entry is not the one that admits the extension
      cases List.mem_append.mp hmem with
      | inl hbefore => exact ⟨allowed, List.mem_append_left after hbefore, halike⟩
      | inr hrest =>
        cases hrest with
        | head => exact absurd halike hnot
        | tail _ hafter => exact ⟨allowed, List.mem_append_right before hafter, halike⟩
  · intro allowed _ extension hsame i c d hc hd hother
    exact (sameLetters_iff.mp hsame).eq_of_not_ascii hc hd hother

end Limits

end ScanClient
