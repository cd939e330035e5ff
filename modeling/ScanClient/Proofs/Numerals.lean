import ScanClient.Proofs.Reading
import ScanClient.Proofs.Shortest

/-!
# Reading numbers that were written

A numeral is read part by part as it was written. Its value is found without a fault if it has no
more digits before the point than fit, and no exponent that leads up. That is so of integers of 64
bits and of doubles between 0 and 1.
-/

namespace ScanClient.Json

/-! ## The parts of a numeral -/

/-- Digits as they may stand before a point. -/
inductive IsWhole : List Char → Prop where
  | zero : IsWhole ['0']
  | digits {c : Char} {ds : List Char} (hc : c.isDigit = true) (hne : c ≠ '0') (hds : Digits ds) :
      IsWhole (c :: ds)

theorem IsWhole.head_isDigit {whole : List Char} (h : IsWhole whole) :
    ∃ c ds, whole = c :: ds ∧ c.isDigit = true := by
  cases h with
  | zero => exact ⟨'0', [], rfl, rfl⟩
  | @digits c ds hc hne hds => exact ⟨c, ds, rfl, hc⟩

theorem IsWhole.digits_ne_nil {whole : List Char} (h : IsWhole whole) :
    Digits whole ∧ whole ≠ [] := by
  cases h with
  | zero => exact ⟨digits_cons.mpr ⟨rfl, digits_nil⟩, List.cons_ne_nil _ _⟩
  | digits hc hne hds => exact ⟨digits_cons.mpr ⟨hc, hds⟩, List.cons_ne_nil _ _⟩

namespace Numeral

/-- The parts of a numeral are digits where they should be. -/
structure WellFormed (n : Numeral) : Prop where
  whole : IsWhole n.whole
  fraction : Digits n.fraction
  exponent : ∀ down ds, n.exponent = some (down, ds) → Digits ds ∧ ds ≠ []

def exponentChars : Option (Bool × List Char) → List Char
  | none => []
  | some (down, ds) => 'e' :: (if down then '-' else '+') :: ds

/-- A numeral as it is written. -/
def chars (n : Numeral) : List Char :=
  (if n.negative then ['-'] else []) ++ n.whole ++
    (if n.fraction.isEmpty then [] else '.' :: n.fraction) ++ exponentChars n.exponent

end Numeral

/-- The ways to write an exponent. A plus sign may be left out. -/
inductive SpeltExponent : Option (Bool × List Char) → List Char → Prop where
  | none : SpeltExponent none []
  | unsigned {mark : Char} {ds : List Char} (hmark : mark = 'e' ∨ mark = 'E') (hds : Digits ds)
      (hne : ds ≠ []) : SpeltExponent (some (false, ds)) (mark :: ds)
  | signed {mark : Char} {ds : List Char} (hmark : mark = 'e' ∨ mark = 'E') (down : Bool)
      (hds : Digits ds) (hne : ds ≠ []) :
      SpeltExponent (some (down, ds)) (mark :: (if down then '-' else '+') :: ds)

/-- The ways to write a numeral, which differ in its exponent only. -/
structure Numeral.Spelt (n : Numeral) (text : List Char) : Prop where
  whole : IsWhole n.whole
  fraction : Digits n.fraction
  text_eq : ∃ exponent, SpeltExponent n.exponent exponent ∧
    text = (if n.negative then ['-'] else []) ++
      (n.whole ++ ((if n.fraction.isEmpty then [] else '.' :: n.fraction) ++ exponent))

theorem Numeral.WellFormed.spelt {n : Numeral} (wellFormed : n.WellFormed) : n.Spelt n.chars where
  whole := wellFormed.whole
  fraction := wellFormed.fraction
  text_eq := by
    refine ⟨exponentChars n.exponent, ?_, by simp only [chars, List.append_assoc]⟩
    cases hexponent : n.exponent with
    | none => exact .none
    | some given =>
      obtain ⟨down, ds⟩ := given
      obtain ⟨hds, hne⟩ := wellFormed.exponent down ds hexponent
      exact .signed (.inl rfl) down hds hne

/-- What may follow a numeral. -/
def Ends (s : List Char) : Prop :=
  ∀ c, s.head? = some c → c.isDigit = false ∧ c ≠ '.' ∧ c ≠ 'e' ∧ c ≠ 'E'

theorem ends_nil : Ends [] := fun _ h => nomatch h

theorem Ends.noDigit {s : List Char} (h : Ends s) : NoDigit s := fun c hc => (h c hc).1

theorem Closes.ends {s : List Char} (h : Closes s) : Ends s := by
  intro c hc
  rcases h c hc with rfl | rfl | rfl | hblank
  · decide
  · decide
  · decide
  · simp only [isBlank, Bool.or_eq_true, beq_iff_eq] at hblank
    rcases hblank with ((rfl | rfl) | rfl) | rfl <;> decide

theorem startsWithDigit_of_noDigit {s : List Char} (h : NoDigit s) : startsWithDigit s = false := by
  cases s with
  | nil => rfl
  | cons c rest => exact h c rfl

theorem readDigits_append {ds rest : List Char} (hds : Digits ds) (hrest : NoDigit rest) :
    ∃ h, readDigits (ds ++ rest) = (ds, ⟨rest, h⟩) := by
  refine ⟨by rw [List.length_append]; omega, ?_⟩
  simp only [readDigits, takeWhile_digits hds hrest, dropWhile_digits hds hrest]

theorem gives_readWhole {whole : List Char} (hwhole : IsWhole whole) {rest : List Char}
    (hrest : NoDigit rest) (atEnd : Cause) :
    Gives (readWhole atEnd (whole ++ rest)) whole rest := by
  cases hwhole with
  | zero =>
    simp only [List.singleton_append, readWhole, if_true, startsWithDigit_of_noDigit hrest]
    exact gives_single _ _ _
  | @digits c ds hc hne hds =>
    obtain ⟨h, hread⟩ := readDigits_append hds hrest
    refine ⟨Nat.lt_succ_of_le h, ?_⟩
    simp only [List.cons_append, readWhole, if_neg hne, if_pos hc, hread]
    rfl

theorem readFraction_none {rest : List Char} (hrest : rest.head? ≠ some '.') (atEnd : Cause) :
    ∃ h, readFraction atEnd rest = .ok ([], ⟨rest, h⟩) := by
  refine ⟨length_le_self rest, ?_⟩
  unfold readFraction
  split
  next more => exact absurd rfl hrest
  next => rfl

theorem readFraction_some {ds : List Char} (hds : Digits ds) (hne : ds ≠ []) {rest : List Char}
    (hrest : NoDigit rest) (atEnd : Cause) :
    ∃ h, readFraction atEnd ('.' :: (ds ++ rest)) = .ok (ds, ⟨rest, h⟩) := by
  obtain ⟨h, hread⟩ := readDigits_append hds hrest
  refine ⟨Nat.le_succ_of_le h, ?_⟩
  simp only [readFraction, hread]
  obtain ⟨c, more, rfl⟩ := List.exists_cons_of_ne_nil hne
  rfl

theorem readExponentDigits_append {ds : List Char} (hds : Digits ds) (hne : ds ≠ [])
    {rest : List Char} (hrest : NoDigit rest) (atEnd : Cause) :
    ∃ h, readExponentDigits atEnd (ds ++ rest) = .ok (ds, ⟨rest, h⟩) := by
  obtain ⟨h, hread⟩ := readDigits_append hds hrest
  refine ⟨h, ?_⟩
  simp only [readExponentDigits, hread]
  obtain ⟨c, more, rfl⟩ := List.exists_cons_of_ne_nil hne
  rfl

theorem readSign_of_isDigit {c : Char} (hc : c.isDigit = true) (rest : List Char) :
    readSign (c :: rest) = (false, .whole (c :: rest)) := by
  -- a digit is no sign
  rw [readSign.eq_3]
  · intro more hmore
    cases hmore
    cases hc
  · intro more hmore
    cases hmore
    cases hc

/-- An exponent is read however it is written. -/
theorem SpeltExponent.readExponent {exponent : Option (Bool × List Char)} {text : List Char}
    (spelt : SpeltExponent exponent text) {rest : List Char} (hrest : Ends rest)
    (atEnd : Cause) :
    ∃ h, Json.readExponent atEnd (text ++ rest) = .ok (exponent, ⟨rest, h⟩) := by
  cases spelt with
  | none =>
    refine ⟨length_le_self rest, ?_⟩
    show Json.readExponent atEnd rest = _
    unfold Json.readExponent
    split
    next => rfl
    next c more =>
      have hc := hrest c rfl
      rw [if_neg (not_or.mpr ⟨hc.2.2.1, hc.2.2.2⟩)]
      rfl
  | @unsigned mark ds hmark hds hne =>
    obtain ⟨h, hdigits⟩ := readExponentDigits_append hds hne hrest.noDigit atEnd
    obtain ⟨c, more, rfl⟩ := List.exists_cons_of_ne_nil hne
    have hsign := readSign_of_isDigit (hds c List.mem_cons_self) (more ++ rest)
    refine ⟨Nat.le_succ_of_le h, ?_⟩
    show Json.readExponent atEnd (mark :: c :: (more ++ rest)) = _
    rw [Json.readExponent, if_pos hmark, hsign]
    simp only [Tail.whole, show readExponentDigits atEnd (c :: (more ++ rest)) = _ from hdigits]
    rfl
  | @signed mark ds hmark down hds hne =>
    obtain ⟨h, hdigits⟩ := readExponentDigits_append hds hne hrest.noDigit atEnd
    have hsign : readSign ((if down then '-' else '+') :: (ds ++ rest)) =
        (down, (Tail.whole (ds ++ rest)).behind (if down then '-' else '+')) := by
      cases down <;> rfl
    refine ⟨Nat.le_succ_of_le (Nat.le_succ_of_le h), ?_⟩
    show Json.readExponent atEnd (mark :: (if down then '-' else '+') :: (ds ++ rest)) = _
    rw [Json.readExponent, if_pos hmark, hsign]
    simp only [Tail.behind, Tail.whole, hdigits]
    rfl

/-- Neither a digit nor a point begins an exponent, or what may follow a numeral. -/
theorem SpeltExponent.head? {exponent : Option (Bool × List Char)} {text : List Char}
    (spelt : SpeltExponent exponent text) {rest : List Char} (hrest : Ends rest) :
    NoDigit (text ++ rest) ∧ (text ++ rest).head? ≠ some '.' := by
  have hletter : ∀ {mark : Char} {more : List Char}, mark = 'e' ∨ mark = 'E' →
      NoDigit (mark :: more ++ rest) ∧ (mark :: more ++ rest).head? ≠ some '.' := by
    rintro mark more (rfl | rfl)
    · exact ⟨noDigit_cons (by decide) _, fun h => by cases Option.some.inj h⟩
    · exact ⟨noDigit_cons (by decide) _, fun h => by cases Option.some.inj h⟩
  cases spelt with
  | none => exact ⟨hrest.noDigit, fun h => (hrest '.' h).2.1 rfl⟩
  | unsigned hmark hds hne => exact hletter hmark
  | signed hmark down hds hne => exact hletter hmark

/-- The parts of a numeral make up the numeral. -/
theorem Gives.unsigned {s t u rest : List Char} {whole fraction : List Char}
    {exponent : Option (Bool × List Char)} {atEnd : Cause}
    (hwhole : Gives (readWhole atEnd s) whole t)
    (hfraction : ∃ h, readFraction atEnd t = .ok (fraction, ⟨u, h⟩))
    (hexponent : ∃ h, readExponent atEnd u = .ok (exponent, ⟨rest, h⟩)) (negative : Bool) :
    Gives (readUnsigned atEnd negative s) ⟨negative, whole, fraction, exponent⟩ rest := by
  obtain ⟨shorter, hwhole⟩ := hwhole
  obtain ⟨hu, hfraction⟩ := hfraction
  obtain ⟨hrest, hexponent⟩ := hexponent
  refine ⟨Nat.lt_of_le_of_lt (Nat.le_trans hrest hu) shorter, ?_⟩
  simp only [readUnsigned, hwhole, hfraction, hexponent]
  rfl

theorem Numeral.Spelt.gives_readUnsigned {n : Numeral} {text exponent : List Char}
    (spelt : n.Spelt text) (hspelt : SpeltExponent n.exponent exponent) {rest : List Char}
    (hrest : Ends rest) (atEnd : Cause) :
    Gives (readUnsigned atEnd n.negative
      (n.whole ++ ((if n.fraction.isEmpty then [] else '.' :: n.fraction) ++
        (exponent ++ rest)))) n rest := by
  obtain ⟨hdigit, hpoint⟩ := hspelt.head? hrest
  have hexponent := hspelt.readExponent hrest atEnd
  -- a fraction without digits is written without its point
  by_cases hnone : n.fraction = []
  · rw [hnone]
    have hread := (gives_readWhole spelt.whole hdigit atEnd).unsigned
      (readFraction_none hpoint atEnd) hexponent n.negative
    rw [← hnone] at hread
    exact hread
  · rw [List.isEmpty_eq_false_iff.mpr hnone]
    exact (gives_readWhole spelt.whole (noDigit_cons (by decide) _) atEnd).unsigned
      (readFraction_some spelt.fraction hnone hdigit atEnd) hexponent n.negative

theorem readNumeral_of_ne {s : List Char} (h : ∀ more, s ≠ '-' :: more) (atEnd : Cause) :
    readNumeral atEnd s = readUnsigned atEnd false s := by
  unfold readNumeral
  split
  next more => exact absurd rfl (h more)
  next => rfl

/-- A numeral is read however it is written. -/
theorem Numeral.Spelt.gives_readNumeral {n : Numeral} {text : List Char} (spelt : n.Spelt text)
    {rest : List Char} (hrest : Ends rest) (atEnd : Cause) :
    Gives (readNumeral atEnd (text ++ rest)) n rest := by
  obtain ⟨exponent, hspelt, htext⟩ := spelt.text_eq
  have hread := spelt.gives_readUnsigned hspelt hrest atEnd
  have hall : text ++ rest = (if n.negative then ['-'] else []) ++
      (n.whole ++ ((if n.fraction.isEmpty then [] else '.' :: n.fraction) ++
        (exponent ++ rest))) := by
    simp only [htext, List.append_assoc]
  rw [hall]
  cases hsign : n.negative with
  | true =>
    rw [hsign] at hread
    exact hread.behind '-'
  | false =>
    rw [hsign] at hread
    -- a whole part begins with a digit, which is no sign
    obtain ⟨hdigits, hne⟩ := spelt.whole.digits_ne_nil
    rw [if_neg (by decide), List.nil_append, readNumeral_of_ne]
    · exact hread
    · intro more hmore
      cases hdigits.isDigit_of_append hne hmore

theorem gives_readNumeral {n : Numeral} (wellFormed : n.WellFormed) {rest : List Char}
    (hrest : Ends rest) (atEnd : Cause) : Gives (readNumeral atEnd (n.chars ++ rest)) n rest :=
  wellFormed.spelt.gives_readNumeral hrest atEnd

/-! ## What has been read is a numeral -/

theorem readDigits_spec (s : List Char) :
    Digits (readDigits s).1 ∧ s = (readDigits s).1 ++ (readDigits s).2.rest :=
  ⟨List.all_eq_true.mp List.all_takeWhile, (List.takeWhile_append_dropWhile).symm⟩

theorem exists_of_readWhole {atEnd : Cause} {s : List Char} {r : Read (List Char) s}
    (h : readWhole atEnd s = .ok r) : IsWhole r.value ∧ s = r.value ++ r.rest := by
  unfold readWhole at h
  split at h
  · cases h
  next c rest =>
    split at h
    next hzero =>
      split at h
      · cases h
      · cases h
        exact ⟨.zero, congrArg (· :: rest) hzero⟩
    next hzero =>
      split at h
      next hc =>
        cases h
        obtain ⟨hds, hrest⟩ := readDigits_spec rest
        exact ⟨.digits hc hzero hds, congrArg (c :: ·) hrest⟩
      next => cases h

theorem exists_of_readFraction {atEnd : Cause} {s fraction : List Char} {t : Tail s}
    (h : readFraction atEnd s = .ok (fraction, t)) :
    Digits fraction ∧ s = (if fraction.isEmpty then [] else '.' :: fraction) ++ t.rest := by
  unfold readFraction at h
  split at h
  next rest =>
    obtain ⟨hds, hrest⟩ := readDigits_spec rest
    split at h
    next => cases h
    next ds u hne hread =>
      cases h
      rw [hread] at hds hrest
      rw [List.isEmpty_eq_false_iff.mpr hne]
      exact ⟨hds, congrArg ('.' :: ·) hrest⟩
  next =>
    cases h
    exact ⟨digits_nil, rfl⟩

theorem exists_of_readExponentDigits {atEnd : Cause} {s ds : List Char} {t : Tail s}
    (h : readExponentDigits atEnd s = .ok (ds, t)) : Digits ds ∧ ds ≠ [] ∧ s = ds ++ t.rest := by
  unfold readExponentDigits at h
  obtain ⟨hds, hrest⟩ := readDigits_spec s
  split at h
  next => cases h
  next found hne =>
    cases h
    refine ⟨hds, fun hnil => hne (readDigits s).2 (Prod.ext hnil rfl), hrest⟩

theorem readSign_spec (s : List Char) :
    s = (if (readSign s).1 then '-' else '+') :: (readSign s).2.rest ∨
      (readSign s).1 = false ∧ s = (readSign s).2.rest := by
  unfold readSign
  split
  · exact .inl rfl
  · exact .inl rfl
  · exact .inr ⟨rfl, rfl⟩

theorem exists_of_readExponent {atEnd : Cause} {s : List Char}
    {exponent : Option (Bool × List Char)} {t : Tail s}
    (h : readExponent atEnd s = .ok (exponent, t)) :
    ∃ text, SpeltExponent exponent text ∧ s = text ++ t.rest := by
  unfold readExponent at h
  split at h
  · cases h
    exact ⟨[], .none, rfl⟩
  next c rest =>
    split at h
    next hmark =>
      cases hdigits : readExponentDigits atEnd (readSign rest).2.rest with
      | error e =>
        simp only [hdigits] at h
        cases h
      | ok found =>
        obtain ⟨ds, u⟩ := found
        obtain ⟨hds, hne, hrest⟩ := exists_of_readExponentDigits hdigits
        simp only [hdigits] at h
        cases h
        -- the sign may be left out
        rcases readSign_spec rest with hsign | ⟨hplus, hsign⟩
        · rw [hrest] at hsign
          exact ⟨_, .signed hmark _ hds hne, congrArg (c :: ·) hsign⟩
        · rw [hrest] at hsign
          rw [hplus]
          exact ⟨_, .unsigned hmark hds hne, congrArg (c :: ·) hsign⟩
    next =>
      cases h
      exact ⟨[], .none, rfl⟩

theorem exists_of_readUnsigned {atEnd : Cause} {negative : Bool} {s : List Char}
    {r : Read Numeral s} (h : readUnsigned atEnd negative s = .ok r) :
    ∃ text, r.value.Spelt ((if negative then ['-'] else []) ++ text) ∧ s = text ++ r.rest := by
  unfold readUnsigned at h
  split at h
  next => cases h
  next whole hwhole =>
    obtain ⟨hw, hs⟩ := exists_of_readWhole hwhole
    split at h
    next => cases h
    next fraction t hfraction =>
      obtain ⟨hf, ht⟩ := exists_of_readFraction hfraction
      split at h
      next => cases h
      next exponent u hexponent =>
        obtain ⟨text, he, hu⟩ := exists_of_readExponent hexponent
        cases h
        refine ⟨_, ⟨hw, hf, text, he, rfl⟩, ?_⟩
        rw [hu] at ht
        rw [ht] at hs
        simp only [List.append_assoc]
        exact hs

/-- Whatever numeral is read is spelt as it was read. -/
theorem exists_of_readNumeral {atEnd : Cause} {s : List Char} {r : Read Numeral s}
    (h : readNumeral atEnd s = .ok r) : ∃ text, r.value.Spelt text ∧ s = text ++ r.rest := by
  unfold readNumeral at h
  split at h
  next rest =>
    cases hread : readUnsigned atEnd true rest with
    | error e =>
      simp only [behindChar, hread] at h
      cases h
    | ok found =>
      obtain ⟨text, spelt, hrest⟩ := exists_of_readUnsigned hread
      simp only [behindChar, hread] at h
      cases h
      exact ⟨'-' :: text, spelt, congrArg ('-' :: ·) hrest⟩
  next => exact exists_of_readUnsigned h

/-! ## The value of a numeral -/

/-- Scaling down always has a result. -/
theorem scale_of_neg (x : Double) {e : Int} (h : e < 0) : ∃ y, scale x e = some y := by
  fun_induction scale x e with
  | case1 | case2 | case3 | case4 => omega
  | case5 | case6 => exact ⟨_, rfl⟩
  | case7 x e _ _ _ ih => exact ih (by omega)

theorem le_ofDigitChars (ds : List Char) (n : Nat) : n ≤ Nat.ofDigitChars 10 ds n := by
  induction ds generalizing n with
  | nil => exact Nat.le_of_eq Nat.ofDigitChars_nil.symm
  | cons c ds ih =>
    rw [Nat.ofDigitChars_cons]
    exact Nat.le_trans (by omega) (ih _)

/-- Digits are taken in if their value is within the limit. -/
theorem absorb_of_le {limit n : Nat} {ds : List Char} (h : Nat.ofDigitChars 10 ds n ≤ limit) :
    absorb limit n ds = (Nat.ofDigitChars 10 ds n, []) := by
  induction ds generalizing n with
  | nil => rw [absorb, Nat.ofDigitChars_nil]
  | cons c ds ih =>
    rw [Nat.ofDigitChars_cons, Nat.mul_comm 10 n] at h ⊢
    -- the value never falls, so it is within the limit at each digit
    have hle := Nat.le_trans (le_ofDigitChars ds _) h
    rw [absorb, digitValue, if_pos hle]
    exact ih h

theorem length_absorb_le (limit n : Nat) (ds : List Char) :
    (absorb limit n ds).2.length ≤ ds.length := by
  induction ds generalizing n with
  | nil => exact Nat.le_refl 0
  | cons c ds ih =>
    rw [absorb]
    split
    · exact Nat.le_succ_of_le (ih _)
    · exact Nat.le_refl _

theorem ofDigitChars_of_absorb {limit n e : Nat} {ds : List Char}
    (h : absorb limit n ds = (e, [])) : e = Nat.ofDigitChars 10 ds n := by
  induction ds generalizing n with
  | nil =>
    rw [Nat.ofDigitChars_nil]
    exact (Prod.mk.inj h).1.symm
  | cons c ds ih =>
    rw [absorb] at h
    split at h
    next =>
      rw [Nat.ofDigitChars_cons, Nat.mul_comm 10 n]
      exact ih h
    next => cases (Prod.mk.inj h).2

/-- The value of a whole part that is not too long. -/
theorem absorb_whole {whole : List Char} (hwhole : IsWhole whole) (hlength : whole.length ≤ 18) :
    ∃ n, n < 10 ^ 18 ∧ absorb maxSignificand 0 whole = (n, []) := by
  have hlt := decimalValue_lt hwhole.digits_ne_nil.1
  have hle : 10 ^ whole.length ≤ 10 ^ 18 := Nat.pow_le_pow_right (by decide) hlength
  have hmax : 10 ^ 18 ≤ maxSignificand := by decide
  refine ⟨_, Nat.lt_of_lt_of_le hlt hle, absorb_of_le ?_⟩
  exact Nat.le_of_lt (Nat.lt_of_lt_of_le hlt (Nat.le_trans hle hmax))

/-- A double is made of a numeral with a point that has few digits before it. -/
theorem Numeral.value_of_fraction {n : Numeral} (wellFormed : n.WellFormed)
    (hexponent : n.exponent = none) (hfraction : n.fraction ≠ [])
    (hlength : n.whole.length ≤ 18) : ∃ x, ∀ rest, n.value rest = .ok (.double x) := by
  obtain ⟨whole, hlt, hwhole⟩ := absorb_whole wellFormed.whole hlength
  obtain ⟨c, more, hcons⟩ := List.exists_cons_of_ne_nil hfraction
  -- at least one digit behind the point is taken in
  have hroom : whole * 10 + digitValue c ≤ maxSignificand := by
    have hbounds := digit_bounds (wellFormed.fraction c (hcons ▸ List.mem_cons_self))
    have hdigit : digitValue c ≤ 9 := by
      simp only [digitValue, show '0'.toNat = 48 from rfl]
      omega
    have hmax : 10 ^ 18 * 10 ≤ maxSignificand := by decide
    omega
  have hdropped : (absorb maxSignificand whole n.fraction).2.length < n.fraction.length := by
    rw [hcons, absorb, if_pos hroom]
    exact Nat.lt_succ_of_le (length_absorb_le _ _ _)
  obtain ⟨y, hy⟩ := scale_of_neg (.ofNat (absorb maxSignificand whole n.fraction).1)
    (e := ([] : List Char).length + (absorb maxSignificand whole n.fraction).2.length -
      n.fraction.length) (by rw [List.length_nil]; omega)
  refine ⟨if n.negative then y.neg else y, fun rest => ?_⟩
  simp only [Numeral.value, hwhole, hexponent, List.isEmpty_eq_false_iff.mpr hfraction,
    Bool.false_eq_true, false_and, if_false, hy]
  rfl

/-- And of one with an exponent that leads down. -/
theorem Numeral.value_of_down {n : Numeral} (wellFormed : n.WellFormed) {ds : List Char}
    (hexponent : n.exponent = some (true, ds)) (hds : Nat.ofDigitChars 10 ds 0 ≠ 0)
    (hlength : n.whole.length ≤ 18) : ∃ x, ∀ rest, n.value rest = .ok (.double x) := by
  obtain ⟨whole, hlt, hwhole⟩ := absorb_whole wellFormed.whole hlength
  have hdropped := length_absorb_le maxSignificand whole n.fraction
  cases hcount : absorb maxExponent 0 ds with
  | mk e left =>
    cases left with
    | cons c left =>
      -- an exponent too long to be counted makes zero
      refine ⟨if n.negative then Double.zero.neg else Double.zero, fun rest => ?_⟩
      simp only [Numeral.value, hwhole, hexponent, hcount, Option.isNone_some, Bool.false_eq_true,
        false_and, and_false, if_false, Bool.not_true]
      rfl
    | nil =>
      have he : 0 < e := Nat.pos_of_ne_zero (ofDigitChars_of_absorb hcount ▸ hds)
      obtain ⟨y, hy⟩ := scale_of_neg (.ofNat (absorb maxSignificand whole n.fraction).1)
        (e := ([] : List Char).length + (absorb maxSignificand whole n.fraction).2.length -
          n.fraction.length - e) (by rw [List.length_nil]; omega)
      refine ⟨if n.negative then y.neg else y, fun rest => ?_⟩
      simp only [Numeral.value, hwhole, hexponent, hcount, Option.isNone_some, Bool.false_eq_true,
        false_and, and_false, if_false, if_true, hy]
      rfl

/-! ## Doubles -/

/-- A numeral of which a double is made whatever follows it. -/
structure Numeral.Valued (n : Numeral) : Prop where
  wellFormed : n.WellFormed
  value : ∃ x, ∀ rest, n.value rest = .ok (.double x)

theorem Numeral.valued_of_fraction {negative : Bool} {whole fraction : List Char}
    (hwhole : IsWhole whole) (hlength : whole.length ≤ 18) (hfraction : Digits fraction)
    (hne : fraction ≠ []) : Valued ⟨negative, whole, fraction, none⟩ := by
  have wellFormed : WellFormed ⟨negative, whole, fraction, none⟩ :=
    ⟨hwhole, hfraction, fun _ _ h => nomatch h⟩
  exact ⟨wellFormed, value_of_fraction wellFormed rfl hne hlength⟩

theorem Numeral.chars_of_fraction (negative : Bool) (whole : List Char) {fraction : List Char}
    (hne : fraction ≠ []) :
    chars ⟨negative, whole, fraction, none⟩ =
      (if negative then ['-'] else []) ++ (whole ++ '.' :: fraction) := by
  simp only [chars, List.isEmpty_eq_false_iff.mpr hne, exponentChars, Bool.false_eq_true, if_false,
    List.append_nil, List.append_assoc]

theorem digits_zeros (n : Nat) : Digits (Double.zeros n) := digits_replicate n

/-- The digits of a number other than zero. -/
theorem digitChars_cons {n : Nat} (hn : n ≠ 0) :
    ∃ c ds, Double.digitChars n = c :: ds ∧ c.isDigit = true ∧ c ≠ '0' ∧ Digits ds := by
  obtain ⟨c, ds, hcons⟩ := List.exists_cons_of_ne_nil (Nat.toDigits_ne_nil (n := n) (b := 10))
  have hdigits := digits_toDigits n
  have hhead := head?_toDigits hn
  rw [hcons] at hdigits hhead
  obtain ⟨hc, hds⟩ := digits_cons.mp hdigits
  exact ⟨c, ds, hcons, hc, fun h => hhead (congrArg some h), hds⟩

section

variable (negative : Bool) {c : Char} {ds : List Char} (hc : c.isDigit = true) (hne : c ≠ '0')
  (hds : Digits ds)

include hc hne hds

/-- Digits with a point among them, or behind zeros, or before one. -/
theorem valued_positional {point : Int} (hpoint : point ≤ 18) :
    ∃ n : Numeral, n.Valued ∧
      n.chars = (if negative then ['-'] else []) ++ Double.positional true (c :: ds) point := by
  have hall : Digits (c :: ds) := digits_cons.mpr ⟨hc, hds⟩
  unfold Double.positional
  by_cases hsmall : point ≤ 0
  · -- zeros stand between the point and the digits
    have hfraction : Double.zeros (-point).toNat ++ c :: ds ≠ [] :=
      List.append_ne_nil_of_right_ne_nil _ (List.cons_ne_nil _ _)
    refine ⟨⟨negative, ['0'], Double.zeros (-point).toNat ++ c :: ds, none⟩, ?_, ?_⟩
    · exact Numeral.valued_of_fraction .zero (by decide) ((digits_zeros _).append hall) hfraction
    · rw [if_pos hsmall]
      exact Numeral.chars_of_fraction negative ['0'] hfraction
  rw [if_neg hsmall]
  obtain ⟨k, hk⟩ : ∃ k, point.toNat = k + 1 := ⟨point.toNat - 1, by omega⟩
  rw [hk]
  by_cases hinside : point < (c :: ds).length
  · -- the point stands among the digits
    have hfraction : ds.drop k ≠ [] := by
      rw [List.length_cons] at hinside
      rw [ne_eq, List.drop_eq_nil_iff]
      omega
    have hmore : Digits (ds.take k) := fun d hd => hds d (List.mem_of_mem_take hd)
    have hless : Digits (ds.drop k) := fun d hd => hds d (List.mem_of_mem_drop hd)
    have hlength : (c :: ds.take k).length ≤ 18 := by
      rw [List.length_cons, List.length_take]
      omega
    refine ⟨⟨negative, c :: ds.take k, ds.drop k, none⟩, ?_, ?_⟩
    · exact Numeral.valued_of_fraction (.digits hc hne hmore) hlength hless hfraction
    · rw [if_pos hinside]
      exact Numeral.chars_of_fraction negative (c :: ds.take k) hfraction
  · -- the point comes after the digits, perhaps behind more zeros
    have hmore : Digits (ds ++ Double.zeros (k + 1 - (c :: ds).length)) :=
      hds.append (digits_zeros _)
    have hlength : (c :: (ds ++ Double.zeros (k + 1 - (c :: ds).length))).length ≤ 18 := by
      simp only [List.length_cons, List.length_append, Double.zeros, List.length_replicate]
        at hinside ⊢
      omega
    refine ⟨⟨negative, c :: (ds ++ Double.zeros (k + 1 - (c :: ds).length)), ['0'], none⟩, ?_, ?_⟩
    · exact Numeral.valued_of_fraction (.digits hc hne hmore) hlength
        (digits_cons.mpr ⟨rfl, digits_nil⟩) (by decide)
    · rw [if_neg hinside, if_pos rfl, Numeral.chars_of_fraction negative _ (by decide)]
      simp only [List.cons_append, List.append_assoc]

/-- Digits with an exponent that leads down. -/
theorem valued_withExponent {exponent : Int} (hexponent : exponent < 0) :
    ∃ n : Numeral, n.Valued ∧
      n.chars = (if negative then ['-'] else []) ++ Double.withExponent true (c :: ds) exponent := by
  have hdown : Nat.ofDigitChars 10 (Double.digitChars exponent.natAbs) 0 ≠ 0 := by
    rw [Double.digitChars, Nat.ofDigitChars_ten_toDigits]
    omega
  let n : Numeral := ⟨negative, [c], ds, some (true, Double.digitChars exponent.natAbs)⟩
  have wellFormed : n.WellFormed := by
    refine ⟨.digits hc hne digits_nil, hds, fun down digits h => ?_⟩
    cases h
    exact ⟨digits_toDigits _, Nat.toDigits_ne_nil⟩
  have hlength : n.whole.length ≤ 18 := Nat.le_add_left 1 17
  refine ⟨n, ⟨wellFormed, Numeral.value_of_down wellFormed rfl hdown hlength⟩, ?_⟩
  simp only [n, Numeral.chars, Numeral.exponentChars, Double.withExponent, if_pos hexponent]
  cases ds with
  | nil => simp
  | cons d more => simp

end

/-- A double up to one is written as a numeral of which a double is made. -/
theorem valued_magnitude (negative : Bool) {m : Nat} {e : Int}
    (h : m = 0 ∨ Double.AtMostOne m e) :
    ∃ n : Numeral, n.Valued ∧
      n.chars = (if negative then ['-'] else []) ++ Double.magnitude .json m e := by
  by_cases hm : m = 0
  · refine ⟨⟨negative, ['0'], ['0'], none⟩, ?_, ?_⟩
    · exact Numeral.valued_of_fraction .zero (by decide) (digits_cons.mpr ⟨rfl, digits_nil⟩)
        (by decide)
    · rw [Numeral.chars_of_fraction negative ['0'] (by decide), Double.magnitude, if_pos hm]
      rfl
  · obtain ⟨hleading, hdigits⟩ := Double.leading_shortest (Nat.pos_of_ne_zero hm)
      (h.resolve_left hm) Double.Layout.json.tie
    obtain ⟨c, ds, hcons, hc, hne, hds⟩ := digitChars_cons hdigits
    simp only [Double.Decimal.leading] at hleading
    simp only [Double.magnitude, if_neg hm]
    rw [hcons] at hleading ⊢
    generalize (Double.shortest _ m e).exponent + ((c :: ds).length : Int) - 1 = leading
      at hleading ⊢
    -- the first digit is not far up, so an exponent is written only for a small number
    by_cases hplain :
      Double.Layout.json.plainFrom ≤ leading ∧ leading < Double.Layout.json.plainBelow
    · rw [if_pos hplain]
      exact valued_positional negative hc hne hds (by omega)
    · rw [if_neg hplain]
      refine valued_withExponent negative hc hne hds ?_
      simp only [Double.Layout.json] at hplain
      omega

/-! ## Reading -/

theorem Numeral.Valued.gives_readNumber {n : Numeral} (valued : n.Valued) :
    ∃ x, ∀ {rest}, Ends rest → Gives (readNumber (n.chars ++ rest)) (.double x) rest := by
  obtain ⟨x, hvalue⟩ := valued.value
  refine ⟨x, fun {rest} hrest => ?_⟩
  obtain ⟨shorter, hread⟩ := gives_readNumeral valued.wellFormed hrest .endInValue
  refine ⟨shorter, ?_⟩
  simp only [readNumber, hread, hvalue]
  rfl

/-- A numeral begins with a minus sign or a digit. -/
theorem Numeral.Spelt.text_cons {n : Numeral} {text : List Char} (spelt : n.Spelt text) :
    ∃ c more, text = c :: more ∧ (c = '-' ∨ c.isDigit = true) := by
  obtain ⟨exponent, _, rfl⟩ := spelt.text_eq
  obtain ⟨hdigits, hne⟩ := spelt.whole.digits_ne_nil
  obtain ⟨c, ds, hcons⟩ := List.exists_cons_of_ne_nil hne
  simp only [hcons]
  cases n.negative with
  | true => exact ⟨'-', _, rfl, .inl rfl⟩
  | false => exact ⟨c, _, rfl, .inr (hdigits c (hcons ▸ List.mem_cons_self))⟩

theorem Numeral.WellFormed.chars_cons {n : Numeral} (wellFormed : n.WellFormed) :
    ∃ c more, n.chars = c :: more ∧ (c = '-' ∨ c.isDigit = true) :=
  wellFormed.spelt.text_cons

theorem isBlank_of_numeral {c : Char} (h : c = '-' ∨ c.isDigit = true) : isBlank c = false := by
  rcases h with rfl | h
  · decide
  · have hbounds := digit_bounds h
    rw [Bool.eq_false_iff]
    intro hblank
    simp only [isBlank, Bool.or_eq_true, beq_iff_eq] at hblank
    rcases hblank with ((rfl | rfl) | rfl) | rfl <;> cases h

/-- A numeral begins like no other value. -/
theorem ne_of_numeral {c : Char} (h : c = '-' ∨ c.isDigit = true) :
    c ≠ 'n' ∧ c ≠ 't' ∧ c ≠ 'f' ∧ c ≠ '"' ∧ c ≠ '[' ∧ c ≠ '\x7b' := by
  refine ⟨?_, ?_, ?_, ?_, ?_, ?_⟩
  all_goals
    rintro rfl
    exact absurd h (by decide)

theorem isWhole_digitChars (n : Nat) : IsWhole (Double.digitChars n) := by
  by_cases hn : n = 0
  · rw [hn]
    exact .zero
  · obtain ⟨c, ds, hcons, hc, hne, hds⟩ := digitChars_cons hn
    rw [hcons]
    exact .digits hc hne hds

/-- An integer of 64 bits is read as it was written. -/
theorem gives_readNumber_integer {n : Nat} (h : n ≤ maxSignificand) {rest : List Char}
    (hrest : Ends rest) : Gives (readNumber (Double.digitChars n ++ rest)) (.integer n) rest := by
  have wellFormed : Numeral.WellFormed ⟨false, Double.digitChars n, [], none⟩ :=
    ⟨isWhole_digitChars n, digits_nil, fun _ _ h => nomatch h⟩
  have hchars : Numeral.chars ⟨false, Double.digitChars n, [], none⟩ = Double.digitChars n := by
    simp only [Numeral.chars, Numeral.exponentChars, Bool.false_eq_true, if_false, List.nil_append,
      List.isEmpty_nil, if_true, List.append_nil]
  obtain ⟨shorter, hread⟩ := gives_readNumeral wellFormed hrest .endInValue
  have hvalue : absorb maxSignificand 0 (Double.digitChars n) = (n, []) := by
    have hdigits : Nat.ofDigitChars 10 (Double.digitChars n) 0 = n :=
      Nat.ofDigitChars_ten_toDigits
    rw [absorb_of_le (Nat.le_trans (Nat.le_of_eq hdigits) h), hdigits]
  rw [← hchars]
  refine ⟨shorter, ?_⟩
  simp only [readNumber, hread, Numeral.value, hvalue]
  rfl

/-- The double that is read where a double was written. Its last bit may be another. -/
def reread (x : Double) : Double :=
  match readNumber (doubleText x).toList with
  | .ok r => r.value.toDouble
  | .error _ => x

section

variable {x : Double} (hzero : Double.zero.le x = true) (hone : x.le .one = true)

include hzero hone

theorem exists_numeral : ∃ n : Numeral, n.Valued ∧ (doubleText x).toList = n.chars := by
  obtain ⟨negative, m, e, rfl, hmagnitude⟩ := Double.finite_of_le hzero hone
  obtain ⟨n, valued, hchars⟩ := valued_magnitude negative hmagnitude
  exact ⟨n, valued, hchars ▸ String.toList_ofList⟩

/-- The text of a double from 0 to 1 is read as a double, the same whatever follows it. -/
theorem gives_readNumber_double {rest : List Char} (hrest : Ends rest) :
    Gives (readNumber ((doubleText x).toList ++ rest)) (.double (reread x)) rest := by
  obtain ⟨n, valued, hchars⟩ := exists_numeral hzero hone
  obtain ⟨y, hnumber⟩ := valued.gives_readNumber
  have hsame : reread x = y := by
    have halone := hnumber ends_nil
    rw [List.append_nil, ← hchars] at halone
    obtain ⟨_, hread⟩ := halone
    rw [reread, hread]
    rfl
  rw [hchars, hsame]
  exact hnumber hrest

theorem doubleText_cons :
    ∃ c more, (doubleText x).toList = c :: more ∧ (c = '-' ∨ c.isDigit = true) := by
  obtain ⟨n, valued, hchars⟩ := exists_numeral hzero hone
  rw [hchars]
  exact valued.wellFormed.chars_cons

theorem gives_readDouble {rest : List Char} (hrest : Ends rest) :
    Gives (readDouble ((doubleText x).toList ++ rest)) (reread x) rest := by
  have hread := gives_readNumber_double hzero hone hrest
  obtain ⟨c, more, hcons, hc⟩ := doubleText_cons hzero hone
  rw [hcons, List.cons_append] at hread ⊢
  refine Gives.atOnce ?_ (isBlank_of_numeral hc)
  rw [if_pos hc]
  exact hread.reader Number.toDouble

end

end ScanClient.Json
