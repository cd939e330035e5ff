import Mathlib
import ScanClient.Calendar.Reader
import ScanClient.Calendar.Written
import ScanClient.Proofs.Trimming

/-!
# Decimal digits

A number is written as its digits, perhaps with zeros before them, and read as the value of all
digits up to the first other character.
-/

namespace ScanClient

open Calendar

/-- Nothing but digits. -/
def Digits (s : List Char) : Prop := ∀ c ∈ s, c.isDigit = true

/-- No digit comes first. -/
def NoDigit (s : List Char) : Prop := ∀ c, s.head? = some c → c.isDigit = false

theorem digits_nil : Digits [] := fun _ h => nomatch h

theorem digits_cons {c : Char} {s : List Char} :
    Digits (c :: s) ↔ c.isDigit = true ∧ Digits s :=
  List.forall_mem_cons

theorem Digits.append {s t : List Char} (hs : Digits s) (ht : Digits t) : Digits (s ++ t) := by
  intro c hc
  exact (List.mem_append.mp hc).elim (hs c) (ht c)

/-- A text that begins with digits begins with a digit. -/
theorem Digits.isDigit_of_append {ds : List Char} (hds : Digits ds) (hne : ds ≠ []) {c : Char}
    {rest more : List Char} (h : ds ++ rest = c :: more) : c.isDigit = true := by
  obtain ⟨d, ds, rfl⟩ := List.exists_cons_of_ne_nil hne
  obtain rfl : d = c := (List.cons.inj h).1
  exact hds d List.mem_cons_self

theorem noDigit_cons {c : Char} (h : c.isDigit = false) (rest : List Char) :
    NoDigit (c :: rest) := by
  intro d hd
  obtain rfl : c = d := Option.some.inj hd
  exact h

/-! ## Digits in a text -/

theorem takeWhile_digits {ds rest : List Char} (hds : Digits ds) (hrest : NoDigit rest) :
    (ds ++ rest).takeWhile Char.isDigit = ds := by
  rw [List.takeWhile_append_of_pos hds]
  cases rest with
  | nil => exact List.append_nil ds
  | cons c rest =>
    rw [List.takeWhile_cons, hrest c rfl]
    exact List.append_nil ds

theorem dropWhile_digits {ds rest : List Char} (hds : Digits ds) (hrest : NoDigit rest) :
    (ds ++ rest).dropWhile Char.isDigit = rest :=
  Text.dropWhile_append_self hds hrest

theorem digit_bounds {c : Char} (h : c.isDigit = true) : 48 ≤ c.toNat ∧ c.toNat ≤ 57 := by
  simp only [Char.isDigit, Bool.and_eq_true, decide_eq_true_eq] at h
  exact h

theorem isBlank_of_isDigit {c : Char} (h : c.isDigit = true) : Text.isBlank c = false := by
  have hbounds := digit_bounds h
  rw [Bool.eq_false_iff]
  intro hblank
  simp only [Text.isBlank, Text.blankRanges, List.any_cons, List.any_nil, Bool.or_eq_true,
    Bool.and_eq_true, decide_eq_true_eq, Bool.false_eq_true, or_false] at hblank
  omega

/-- Digits behind a number are worth less than the next number would be. -/
theorem ofDigitChars_lt {ds : List Char} (hds : Digits ds) (n : Nat) :
    Nat.ofDigitChars 10 ds n < 10 ^ ds.length * (n + 1) := by
  induction ds generalizing n with
  | nil =>
    rw [Nat.ofDigitChars_nil, List.length_nil]
    omega
  | cons c ds ih =>
    obtain ⟨hc, hds⟩ := digits_cons.mp hds
    have hbounds := digit_bounds hc
    have hlt := ih hds (10 * n + (c.toNat - '0'.toNat))
    -- one more digit stays below the next ten
    have hdigit : 10 * n + (c.toNat - '0'.toNat) + 1 ≤ 10 * (n + 1) := by
      rw [show '0'.toNat = 48 from rfl]
      omega
    rw [Nat.ofDigitChars_cons, List.length_cons, Nat.pow_succ, Nat.mul_assoc]
    exact Nat.lt_of_lt_of_le hlt (Nat.mul_le_mul_left _ hdigit)

theorem decimalValue_lt {ds : List Char} (hds : Digits ds) : decimalValue ds < 10 ^ ds.length := by
  have hlt := ofDigitChars_lt hds 0
  rw [Nat.zero_add, Nat.mul_one] at hlt
  exact hlt

/-! ## The digits of a number -/

theorem digits_toDigits (n : Nat) : Digits (Nat.toDigits 10 n) := fun _ hc =>
  Nat.isDigit_of_mem_toDigits (by decide) (by decide) hc

theorem digits_replicate (n : Nat) : Digits (List.replicate n '0') := by
  intro c hc
  rw [List.eq_of_mem_replicate hc]
  rfl

theorem decimalValue_zeros (zeros n : Nat) :
    decimalValue (List.replicate zeros '0' ++ Nat.toDigits 10 n) = n := by
  rw [decimalValue, Nat.ofDigitChars_append, Nat.ofDigitChars_replicate_zero, Nat.mul_zero,
    Nat.ofDigitChars_ten_toDigits]

theorem decimalValue_concat (ds : List Char) (c : Char) :
    decimalValue (ds ++ [c]) = 10 * decimalValue ds + (c.toNat - 48) := by
  rw [decimalValue, Nat.ofDigitChars_append, Nat.ofDigitChars_cons, Nat.ofDigitChars_nil]
  rfl

theorem toDigits_digit {c : Char} (hc : c.isDigit = true) :
    Nat.toDigits 10 (c.toNat - 48) = [c] := by
  have hbounds := digit_bounds hc
  have hchar : Nat.digitChar (c.toNat - 48) = c := by
    rw [← Char.toNat_inj, Nat.toNat_digitChar_of_lt_ten (by omega)]
    omega
  rw [Nat.toDigits_of_lt_base (by omega), hchar]

/-- Digits are those of the number they are worth, behind zeros. -/
theorem exists_zeros_toDigits {ds : List Char} (hds : Digits ds) (hne : ds ≠ []) :
    ∃ zeros, ds = List.replicate zeros '0' ++ Nat.toDigits 10 (decimalValue ds) := by
  induction ds using List.reverseRecOn with
  | nil => exact absurd rfl hne
  | append_singleton ds c ih =>
    have hc : c.isDigit = true := hds c (by simp)
    have hbounds := digit_bounds hc
    have hfront : Digits ds := fun d hd => hds d (List.mem_append_left _ hd)
    rw [decimalValue_concat]
    by_cases hnil : ds = []
    · subst hnil
      refine ⟨0, ?_⟩
      rw [show decimalValue [] = 0 from rfl, Nat.mul_zero, Nat.zero_add, toDigits_digit hc]
      rfl
    · obtain ⟨zeros, hzeros⟩ := ih hfront hnil
      by_cases hzero : decimalValue ds = 0
      · -- so far there are only zeros, and the last digit is all there is
        refine ⟨zeros + 1, ?_⟩
        rw [hzero, Nat.mul_zero, Nat.zero_add, toDigits_digit hc, List.replicate_succ']
        rw [hzero] at hzeros
        rw [hzeros]
        rfl
      · refine ⟨zeros, ?_⟩
        rw [← Nat.toDigits_append_toDigits (by decide) (Nat.pos_of_ne_zero hzero) (by omega),
          toDigits_digit hc, ← List.append_assoc, ← hzeros]

/-- Only zero is written with a zero first. -/
theorem head?_toDigits {n : Nat} (hn : n ≠ 0) : (Nat.toDigits 10 n).head? ≠ some '0' := by
  induction n using Nat.strongRecOn with
  | ind n ih =>
    by_cases hlt : n < 10
    · rw [Nat.toDigits_of_lt_base hlt, List.head?_cons]
      intro h
      exact hn (Nat.digitChar_eq_zero.mp (Option.some.inj h))
    · -- the first digit is that of the number without its last
      have hfirst := ih (n / 10) (by omega) (by omega)
      obtain ⟨c, ds, hds⟩ :=
        List.exists_cons_of_ne_nil (Nat.toDigits_ne_nil (n := n / 10) (b := 10))
      rw [hds] at hfirst
      rw [Nat.toDigits_of_base_le (by decide) (Nat.le_of_not_lt hlt), hds]
      exact hfirst

theorem digits_padded (width n : Nat) : Digits (padded width n) :=
  (digits_replicate _).append (digits_toDigits n)

/-- A number that fits takes as many places as it is given. -/
theorem length_padded {width : Nat} (hwidth : 0 < width) {n : Nat} (h : n < 10 ^ width) :
    (padded width n).length = width := by
  have hle := (Nat.length_toDigits_le_iff (by decide) hwidth).mpr h
  simp only [padded, List.length_append, List.length_replicate]
  omega

theorem decimalValue_padded (width n : Nat) : decimalValue (padded width n) = n :=
  decimalValue_zeros _ n

theorem padded_ne_nil (width n : Nat) : padded width n ≠ [] := by
  intro h
  exact Nat.toDigits_ne_nil (List.append_eq_nil_iff.mp h).2

end ScanClient
