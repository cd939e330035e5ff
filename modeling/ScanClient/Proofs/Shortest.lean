import ScanClient.Number.Notation
import ScanClient.Proofs.Decimals

/-!
# How large a shortest decimal is

The shortest decimal of a double is not much larger than the double. Of a double that is at most one
it has at most three digits before the point, so it is never written with a positive exponent.
-/

namespace ScanClient.Double

/-! ## Decimals -/

/-- The exponent of the first digit. -/
def Decimal.leading (d : Decimal) : Int := d.exponent + (digitChars d.digits).length - 1

theorem length_digitChars_succ {n : Nat} (h : 10 ≤ n) :
    (digitChars n).length = (digitChars (n / 10)).length + 1 := by
  rw [digitChars, Nat.toDigits_of_base_le (by decide) h, List.length_append]
  rfl

/-- Zeros at the end can be dropped without moving the first digit. -/
theorem Decimal.strip_spec (d : Decimal) :
    d.strip.leading = d.leading ∧ (d.digits ≠ 0 → d.strip.digits ≠ 0) := by
  fun_induction Decimal.strip d with
  | case1 d h ih =>
    obtain ⟨hleading, hdigits⟩ := ih
    have hten : 10 ≤ d.digits := by omega
    refine ⟨hleading.trans ?_, fun _ => hdigits (by simp only; omega)⟩
    simp only [leading]
    rw [length_digitChars_succ hten]
    omega
  | case2 d h => exact ⟨rfl, id⟩

/-- A decimal of a number up to a power of ten begins no further than where the power does. -/
theorem Decimal.leading_le {d : Decimal} {k : Nat} (h : d.digits ≤ 10 ^ k + 1) :
    d.leading ≤ d.exponent + k := by
  have hpos : 1 ≤ 10 ^ k := Nat.pow_pos (by decide)
  have hlt : d.digits < 10 ^ (k + 1) := by
    rw [Nat.pow_succ]
    omega
  have hlength := (Nat.length_toDigits_le_iff (by decide) (Nat.succ_pos k)).mpr hlt
  simp only [leading, digitChars]
  omega

/-! ## Doubles up to one -/

/-- The magnitude `m * 2 ^ e` is at most one. -/
def AtMostOne (m : Nat) (e : Int) : Prop := m * 2 ^ e.toNat ≤ 2 ^ (-e).toNat

variable {m : Nat} {e : Int}

theorem readsBack_ne_zero (hm : 0 < m) {d : Decimal} (h : readsBack m e d = true) :
    d.digits ≠ 0 := by
  intro hzero
  -- zero lies below every number that is read back as the double
  have hlow : ∀ {low : Nat}, 0 < low → ∀ j,
      compareScaled d.digits d.exponent low j = .lt := by
    intro low hlow j
    have hpos : 0 < low * Nat.pow 2 j.toNat * Nat.pow 10 (-d.exponent).toNat :=
      Nat.mul_pos (Nat.mul_pos hlow (Nat.pow_pos (by decide))) (Nat.pow_pos (by decide))
    rw [compareScaled, hzero, Nat.zero_mul, Nat.zero_mul]
    exact Nat.compare_eq_lt.mpr hpos
  unfold readsBack at h
  simp only [hlow (show 0 < if m = Nat.pow 2 52 ∧ minExponent < e then 4 * m - 1 else 4 * m - 2 by
    split <;> omega)] at h
  simp at h

theorem floorAt_le (h : AtMostOne m e) (p : Int) : floorAt m e p ≤ 10 ^ (-p).toNat := by
  have hpos : 0 < 2 ^ (-e).toNat * 10 ^ p.toNat :=
    Nat.mul_pos (Nat.pow_pos (by decide)) (Nat.pow_pos (by decide))
  have hle : m * 2 ^ e.toNat * 10 ^ (-p).toNat ≤ 2 ^ (-e).toNat * 10 ^ p.toNat * 10 ^ (-p).toNat :=
    Nat.mul_le_mul_right _
      (Nat.le_trans h (Nat.le_mul_of_pos_right _ (Nat.pow_pos (by decide))))
  exact Nat.div_le_of_le_mul hle

/-- A decimal on a grid is no larger than the grid allows. -/
theorem leading_of_pick (hm : 0 < m) (h : AtMostOne m e) {tie : Tie} {p : Int} {d : Decimal}
    (hpick : pick tie m e p = some d) : d.leading ≤ max p 0 ∧ d.digits ≠ 0 := by
  have hfloor := floorAt_le h p
  have hbound : ∀ {n : Nat}, n ≤ floorAt m e p + 1 → Decimal.leading ⟨n, p⟩ ≤ max p 0 := by
    intro n hn
    have hleading := Decimal.leading_le (d := ⟨n, p⟩) (k := (-p).toNat) (by simp only; omega)
    simp only at hleading
    omega
  have hbelow := hbound (Nat.le_succ (floorAt m e p))
  have habove := hbound (Nat.le_refl (floorAt m e p + 1))
  -- one of the two neighbours is picked, and both are within the bound
  unfold pick at hpick
  simp only at hpick
  split at hpick
  next => cases hpick
  next hreads _ =>
    cases hpick
    exact ⟨hbelow, readsBack_ne_zero hm hreads⟩
  next _ hreads =>
    cases hpick
    exact ⟨habove, readsBack_ne_zero hm hreads⟩
  next hreads hreads' =>
    split at hpick
    · cases hpick
      exact ⟨hbelow, readsBack_ne_zero hm hreads⟩
    · cases hpick
      exact ⟨habove, readsBack_ne_zero hm hreads'⟩
    · cases hpick
      exact ⟨habove, readsBack_ne_zero hm hreads'⟩
    · split at hpick
      · cases hpick
        exact ⟨hbelow, readsBack_ne_zero hm hreads⟩
      · cases hpick
        exact ⟨habove, readsBack_ne_zero hm hreads'⟩

theorem scaleOf_le (hm : 0 < m) (h : AtMostOne m e) : scaleOf m e ≤ 3 := by
  -- the logarithm to the base two bounds the estimate, and the scale is near the estimate
  have hlog : (m.log2 : Int) + e ≤ 0 := by
    have hle : 2 ^ (m.log2 + e.toNat) ≤ 2 ^ (-e).toNat := by
      rw [Nat.pow_add]
      exact Nat.le_trans (Nat.mul_le_mul_right _ (Nat.log2_self_le (Nat.ne_of_gt hm))) h
    have := (Nat.pow_le_pow_iff_right (by decide)).mp hle
    omega
  have hestimate : scaleEstimate m e ≤ 0 := by
    simp only [scaleEstimate]
    omega
  simp only [scaleOf]
  cases hfind : [scaleEstimate m e - 1, scaleEstimate m e, scaleEstimate m e + 1,
      scaleEstimate m e + 2].find? fun k => compareScaled 1 k m e == .gt with
  | none =>
    rw [Option.getD_none]
    omega
  | some k =>
    have hmem := List.mem_of_find?_eq_some hfind
    simp only [List.mem_cons, List.not_mem_nil, or_false] at hmem
    rw [Option.getD_some]
    omega

/-- The shortest decimal of a double up to one. -/
theorem leading_shortest (hm : 0 < m) (h : AtMostOne m e) (tie : Tie) :
    (shortest tie m e).leading ≤ 2 ∧ (shortest tie m e).digits ≠ 0 := by
  have hscale := scaleOf_le hm h
  simp only [shortest]
  generalize hfound : (List.range 17).findSome? _ = found
  have hdecimal : ∀ d : Decimal, d.leading ≤ 2 ∧ d.digits ≠ 0 →
      d.strip.leading ≤ 2 ∧ d.strip.digits ≠ 0 := by
    intro d ⟨hleading, hdigits⟩
    obtain ⟨hstrip, hne⟩ := d.strip_spec
    exact ⟨hstrip ▸ hleading, hne hdigits⟩
  apply hdecimal
  cases found with
  | some d =>
    obtain ⟨n, _, hpick⟩ := List.exists_of_findSome?_eq_some hfound
    obtain ⟨hleading, hdigits⟩ := leading_of_pick hm h hpick
    rw [Option.getD_some]
    exact ⟨by omega, hdigits⟩
  | none =>
    -- the exact value
    have hexact : m * 2 ^ e.toNat * 5 ^ (-e).toNat ≤ 10 ^ (-e).toNat := by
      rw [show (10 : Nat) = 2 * 5 from rfl, Nat.mul_pow]
      exact Nat.mul_le_mul_right _ h
    rw [Option.getD_none]
    refine ⟨?_, Nat.ne_of_gt (Nat.mul_pos (Nat.mul_pos hm (Nat.pow_pos (by decide)))
      (Nat.pow_pos (by decide)))⟩
    have hleading := Decimal.leading_le
      (d := ⟨m * Nat.pow 2 e.toNat * Nat.pow 5 (-e).toNat, -((-e).toNat : Int)⟩)
      (Nat.le_succ_of_le hexact)
    simp only at hleading
    omega

/-! ## The order of doubles -/

theorem le_finite_iff {s t : Bool} {m n : Nat} {e f : Int} :
    (finite s m e).le (finite t n f) = true ↔ atScale s m e (min e f) ≤ atScale t n f (min e f) := by
  simp only [le, order?]
  cases h : compare (atScale s m e (min e f)) (atScale t n f (min e f)) with
  | lt => simp only [true_iff]; exact Int.le_of_lt (Int.compare_eq_lt.mp h)
  | eq => simp only [true_iff]; exact Int.le_of_eq (Int.compare_eq_eq.mp h)
  | gt => simp only [Bool.false_eq_true, false_iff]; exact Int.not_le.mpr (Int.compare_eq_gt.mp h)

theorem one_eq : one = .finite false (2 ^ 52) (-52) := by decide +kernel

theorem zero_eq : zero = .finite false 0 (-1074) := by decide +kernel

/-- A double between 0 and 1 is finite, and its magnitude at most one. -/
theorem finite_of_le {x : Double} (hzero : zero.le x = true) (hone : x.le one = true) :
    ∃ negative m e, x = .finite negative m e ∧ (m = 0 ∨ AtMostOne m e) := by
  cases x with
  | notANumber => cases hone
  | infinite negative =>
    cases negative with
    | true => cases hzero
    | false => cases hone
  | finite negative m e =>
    refine ⟨negative, m, e, rfl, ?_⟩
    rw [zero_eq, le_finite_iff] at hzero
    rw [one_eq, le_finite_iff] at hone
    cases negative with
    | true =>
      -- nothing below zero is at least zero, but for the negative zero
      simp only [atScale, if_true, Bool.false_eq_true, if_false, Nat.zero_mul] at hzero
      have hnone : m * Nat.pow 2 (e - min (-1074) e).toNat = 0 := by omega
      rcases Nat.mul_eq_zero.mp hnone with hm | hpow
      · exact .inl hm
      · exact absurd hpow (Nat.ne_of_gt (Nat.pow_pos (by decide)))
    | false =>
      simp only [atScale, Bool.false_eq_true, if_false] at hone
      -- both sides are scaled up by the same power of two
      obtain ⟨c, hleft, hright⟩ : ∃ c, (e - min e (-52)).toNat = c + e.toNat ∧
          52 + (-52 - min e (-52)).toNat = c + (-e).toNat :=
        ⟨(-(min e (-52)) - (-e).toNat).toNat, by omega, by omega⟩
      have hle : m * 2 ^ (c + e.toNat) ≤ 2 ^ (c + (-e).toNat) := by
        rw [← hleft, ← hright, Nat.pow_add]
        exact Int.ofNat_le.mp hone
      rw [Nat.pow_add, Nat.pow_add, Nat.mul_left_comm] at hle
      exact .inr (Nat.le_of_mul_le_mul_left hle (Nat.pow_pos (by decide)))

end ScanClient.Double
