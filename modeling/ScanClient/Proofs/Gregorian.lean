import ScanClient.Proofs.Dates

/-!
# The calendar by counting

The number of a day, found by counting: the days of all years before its own, the days of the months
before its own in that year, and the days of its month up to it. The calendar computes the same
number without counting the years.
-/

namespace ScanClient.Calendar

/-- Every fourth year is a leap year, but of the centuries only every fourth. -/
def Leap (year : Nat) : Prop := 4 ∣ year ∧ (100 ∣ year → 400 ∣ year)

instance (year : Nat) : Decidable (Leap year) :=
  inferInstanceAs (Decidable (4 ∣ year ∧ (100 ∣ year → 400 ∣ year)))

def yearLength (year : Nat) : Nat := if Leap year then 366 else 365

/-- There are no days in a month that is none of the twelve. -/
def monthLength (year : Nat) : Nat → Nat
  | 2 => if Leap year then 29 else 28
  | 4 | 6 | 9 | 11 => 30
  | 1 | 3 | 5 | 7 | 8 | 10 | 12 => 31
  | _ => 0

/-- The days from the beginning of year 0 up to and with a date. -/
def countDays (year month day : Nat) : Nat :=
  ∑ y ∈ Finset.range year, yearLength y + ∑ m ∈ Finset.Ico 1 month, monthLength year m + day

/-- The days from the first of January 1970 to a date. -/
def daysSinceEpoch (year month day : Nat) : Int := countDays year month day - countDays 1970 1 1

/-! ## Years -/

theorem isLeap_iff (year : Nat) : isLeap year = true ↔ Leap year := by
  simp only [isLeap, Leap, Bool.and_eq_true, Bool.or_eq_true, beq_iff_eq, bne_iff_ne]
  omega

theorem daysBeforeYear_eq_sum (year : Nat) :
    daysBeforeYear year = (∑ y ∈ Finset.range year, yearLength y : Nat) := by
  induction year with
  | zero => rfl
  | succ year ih =>
    have hlength : (yearLength year : Int) = if isLeap year then 366 else 365 := by
      simp only [yearLength, isLeap_iff]
      split
      · rfl
      · rfl
    rw [Finset.sum_range_succ, Nat.cast_succ, daysBeforeYear_succ, ih, ← hlength]
    exact (Nat.cast_add _ _).symm

/-! ## Months -/

/-- The months are the twelve of the list, in its order. -/
theorem daysInMonth_eq (year month : Nat) : daysInMonth year month = monthLength year month := by
  have hleap : isLeap year = decide (Leap year) := by
    rw [Bool.eq_iff_iff, isLeap_iff, decide_eq_true_eq]
  simp only [daysInMonth, hleap, monthLengths, decide_eq_true_eq]
  by_cases hmonth : month ≤ 12
  · interval_cases month <;> rfl
  · have hnone : monthLength year month = 0 := by
      unfold monthLength
      split <;> omega
    rw [hnone, if_neg (by omega), List.getD_eq_default]
    simp only [List.length_cons, List.length_nil]
    omega

/-- The days before a month are those of the months before it. -/
theorem daysBeforeMonth_eq_sum (year i : Nat) :
    daysBeforeMonth year (i + 1) = ∑ m ∈ Finset.Ico 1 (i + 1), monthLength year m := by
  rw [daysBeforeMonth_succ]
  induction i with
  | zero => rfl
  | succ i ih =>
    rw [Finset.sum_Ico_succ_top (Nat.le_add_left 1 i), ← ih, ← daysInMonth_eq, daysInMonth_succ,
      List.take_add_one, List.sum_append, List.getD_eq_getElem?_getD]
    cases (monthLengths (isLeap year))[i]? <;> simp

/-! ## Dates -/

/-- The number of a date is found by counting. -/
theorem Date.number_eq (year month day : Nat) (h : 1 ≤ month) :
    Date.number ⟨year, month, day⟩ = daysSinceEpoch year month day := by
  obtain ⟨i, rfl⟩ := Nat.exists_eq_add_of_le' h
  have hepoch : epochDays = (∑ y ∈ Finset.range 1970, yearLength y : Nat) :=
    daysBeforeYear_eq_sum 1970
  simp only [Date.number, daysSinceEpoch, countDays, daysBeforeYear_eq_sum, daysBeforeMonth_eq_sum,
    hepoch, Finset.Ico_self, Finset.sum_empty]
  omega

end ScanClient.Calendar
