import Mathlib
import ScanClient.Calendar.Instant

/-!
# The calendar

Each number of a day is the number of one date. A year is found by its first day and that of the
next, a month by the lengths of the months before it.
-/

namespace ScanClient.Calendar

/-! ## Years -/

theorem daysBeforeYear_succ (year : Int) :
    daysBeforeYear (year + 1) = daysBeforeYear year + if isLeap year then 366 else 365 := by
  simp only [daysBeforeYear, isLeap, Int.add_sub_cancel, Bool.and_eq_true, Bool.or_eq_true,
    beq_iff_eq, bne_iff_ne]
  -- each quotient moves on where one part of the rule for leap years holds
  split <;> omega

/-- Later years begin later. -/
theorem daysBeforeYear_le {y z : Int} (h : y ≤ z) : daysBeforeYear y ≤ daysBeforeYear z := by
  simp only [daysBeforeYear]
  omega

/-- The year of a day is the one that has begun last. -/
theorem yearOf_spec (n : Int) :
    daysBeforeYear (yearOf n) ≤ n ∧ n < daysBeforeYear (yearOf n + 1) := by
  simp only [yearOf]
  -- the guess is at most one year off, either way
  split
  next h =>
    refine ⟨?_, ?_⟩
    · simp only [daysBeforeYear] at h ⊢
      omega
    · rw [Int.sub_add_cancel]
      exact h
  next h =>
    split
    next h' =>
      refine ⟨h', ?_⟩
      simp only [daysBeforeYear] at h h' ⊢
      omega
    next h' => exact ⟨Int.not_lt.mp h, Int.not_le.mp h'⟩

theorem yearOf_eq {n year : Int} (h : daysBeforeYear year ≤ n)
    (h' : n < daysBeforeYear (year + 1)) : yearOf n = year := by
  obtain ⟨hle, hlt⟩ := yearOf_spec n
  -- another year would be over before this day, or begin after it
  rcases Int.lt_trichotomy (yearOf n) year with hyear | hyear | hyear
  · have := daysBeforeYear_le (show yearOf n + 1 ≤ year from hyear)
    omega
  · exact hyear
  · have := daysBeforeYear_le (show year + 1 ≤ yearOf n from hyear)
    omega

/-! ## Months -/

/-- A day lies in the last month that has begun before it. -/
theorem splitMonths_spec (month : Nat) {lengths : List Nat} {n : Nat} (h : n < lengths.sum) :
    ∃ i day, splitMonths month lengths n = (month + i, day) ∧ i < lengths.length ∧ 1 ≤ day ∧
      day ≤ lengths.getD i 0 ∧ (lengths.take i).sum + day = n + 1 := by
  induction lengths generalizing month n with
  | nil => cases h
  | cons length lengths ih =>
    rw [List.sum_cons] at h
    by_cases hlt : n < length
    · refine ⟨0, n + 1, ?_, Nat.succ_pos _, Nat.succ_pos n, hlt, Nat.zero_add _⟩
      rw [splitMonths, if_pos (.inl hlt)]
      rfl
    · -- the day is in one of the months that follow, of which there is at least one
      have hlater : n - length < lengths.sum := by omega
      have hmore : ¬(n < length ∨ lengths.isEmpty = true) := by
        rintro (h' | hempty)
        · exact hlt h'
        · rw [List.isEmpty_iff.mp hempty] at hlater
          cases hlater
      obtain ⟨i, day, hsplit, hi, hpos, hle, hday⟩ := ih (month + 1) hlater
      refine ⟨i + 1, day, ?_, Nat.succ_lt_succ hi, hpos, hle, ?_⟩
      · rw [splitMonths, if_neg hmore, hsplit, Nat.add_assoc, Nat.add_comm 1 i]
      · rw [List.take_succ_cons, List.sum_cons]
        omega

theorem sum_monthLengths (leap : Bool) :
    (monthLengths leap).sum = if leap then 366 else 365 := by
  cases leap <;> rfl

theorem daysBeforeMonth_succ (year : Int) (i : Nat) :
    daysBeforeMonth year (i + 1) = ((monthLengths (isLeap year)).take i).sum := by
  rw [daysBeforeMonth, Nat.add_sub_cancel, List.sum_eq_foldl]
  rfl

theorem daysInMonth_succ (year : Int) (i : Nat) :
    daysInMonth year (i + 1) = (monthLengths (isLeap year)).getD i 0 := rfl

/-! ## Dates -/

/-- The date of a number has this number, and is one of the calendar but for its year. -/
theorem Date.ofNumber_spec (number : Int) :
    let d := Date.ofNumber number
    d.number = number ∧ d.year = yearOf (number + epochDays) ∧ 1 ≤ d.month ∧ d.month ≤ 12 ∧
      1 ≤ d.day ∧ d.day ≤ daysInMonth d.year d.month := by
  obtain ⟨hle, hlt⟩ := yearOf_spec (number + epochDays)
  rw [daysBeforeYear_succ] at hlt
  have hyear : (number + epochDays - daysBeforeYear (yearOf (number + epochDays))).toNat <
      (monthLengths (isLeap (yearOf (number + epochDays)))).sum := by
    rw [sum_monthLengths]
    split at hlt
    next hleap =>
      rw [if_pos hleap]
      omega
    next hleap =>
      rw [if_neg hleap]
      omega
  obtain ⟨i, day, hsplit, hi, hpos, hday, hsum⟩ := splitMonths_spec 1 hyear
  simp only [Date.ofNumber, hsplit, Nat.add_comm 1 i]
  refine ⟨?_, trivial, Nat.succ_pos i, hi, hpos, hday⟩
  simp only [Date.number, daysBeforeMonth_succ]
  omega

theorem daysInMonth_le (year : Int) (month : Nat) : daysInMonth year month ≤ 31 := by
  have hle : ∀ leap, ∀ length ∈ monthLengths leap, length ≤ 31 := by decide
  unfold daysInMonth
  split
  · exact Nat.zero_le _
  · rw [List.getD_eq_getElem?_getD]
    cases h : (monthLengths (isLeap year))[month - 1]? with
    | none => exact Nat.zero_le _
    | some length => exact hle _ length (List.mem_of_getElem? h)

/-- A month is over before the year is. -/
theorem sum_take_add_getD_le (lengths : List Nat) (i : Nat) :
    (lengths.take i).sum + lengths.getD i 0 ≤ lengths.sum := by
  induction lengths generalizing i with
  | nil => exact Nat.le_of_eq (by simp)
  | cons length lengths ih =>
    cases i with
    | zero =>
      simp only [List.take_zero, List.sum_nil, List.sum_cons, List.getD_cons_zero]
      omega
    | succ i =>
      have hih := ih i
      simp only [List.take_succ_cons, List.sum_cons, List.getD_cons_succ]
      omega

/-- A date lies in its year. -/
theorem Date.number_bounds {d : Date} (h : d.exists = true) :
    daysBeforeYear d.year ≤ d.number + epochDays ∧
      d.number + epochDays < daysBeforeYear (d.year + 1) := by
  obtain ⟨year, month, day⟩ := d
  simp only [Date.exists, Bool.and_eq_true, decide_eq_true_eq] at h
  obtain ⟨⟨_, hpos⟩, hday⟩ := h
  cases month with
  | zero =>
    -- there is no such month, so no day is in it
    rw [show daysInMonth year 0 = 0 from rfl] at hday
    omega
  | succ i =>
    rw [daysInMonth_succ] at hday
    have hover := sum_take_add_getD_le (monthLengths (isLeap year)) i
    rw [sum_monthLengths] at hover
    simp only [Date.number, daysBeforeMonth_succ, daysBeforeYear_succ]
    split at hover
    next hleap =>
      rw [if_pos hleap]
      omega
    next hleap =>
      rw [if_neg hleap]
      omega

/-- The number of a date is the number of no date of another year. -/
theorem Date.year_ofNumber {d : Date} (h : d.exists = true) :
    (Date.ofNumber d.number).year = d.year := by
  obtain ⟨hle, hlt⟩ := Date.number_bounds h
  rw [(Date.ofNumber_spec d.number).2.1]
  exact yearOf_eq hle hlt

end ScanClient.Calendar
