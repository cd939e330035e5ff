import ScanClient.Proofs.Gregorian
import ScanClient.Proofs.Instants

/-!
# Dates of scans

A service writes when a scan was made as a civil date and time, with a fraction of a second if it
likes, and says how far ahead of UTC that is or says nothing of it. With an offset the text is read
in the exact form and without one in the local form. Both are told by the same calendar: the text
is a date if its day is one of its month.
-/

namespace ScanClient.Calendar

/-- A date and time as a service writes it. The month and the day are any two digits, and with no
digits of a fraction there is no point. -/
structure Stamp where
  year : Nat
  month : Nat
  day : Nat
  hour : Nat
  minute : Nat
  second : Nat
  fraction : List Char
  year_le : year ≤ 9999
  month_le : month ≤ 99
  day_le : day ≤ 99
  hour_le : hour ≤ 23
  minute_le : minute ≤ 59
  second_le : second ≤ 59
  fraction_digits : Digits fraction

/-- What is said of the offset: nothing, that there is none, or hours and minutes either way. -/
inductive Zone where
  | unmarked
  | utc
  | ahead (hours : Fin 24) (minutes : Fin 60)
  | behind (hours : Fin 24) (minutes : Fin 60)

namespace Zone

def chars : Zone → List Char
  | unmarked => []
  | utc => ['Z']
  | ahead hours minutes => '+' :: (padded 2 hours ++ ':' :: padded 2 minutes)
  | behind hours minutes => '-' :: (padded 2 hours ++ ':' :: padded 2 minutes)

/-- The seconds a civil time is ahead of UTC. -/
def seconds : Zone → Int
  | unmarked => 0
  | utc => 0
  | ahead hours minutes => (hours : Int) * 3600 + (minutes : Int) * 60
  | behind hours minutes => -((hours : Int) * 3600 + (minutes : Int) * 60)

end Zone

namespace Stamp

variable (s : Stamp)

def fractionText : List Char := if s.fraction = [] then [] else '.' :: s.fraction

def chars : List Char :=
  padded 4 s.year ++ '-' :: (padded 2 s.month ++ '-' :: (padded 2 s.day ++ 'T' ::
    (padded 2 s.hour ++ ':' :: (padded 2 s.minute ++ ':' :: (padded 2 s.second ++
      s.fractionText)))))

/-- The day is one of its month. -/
def DayExists : Prop := 1 ≤ s.day ∧ s.day ≤ monthLength s.year s.month

instance : Decidable s.DayExists := inferInstanceAs (Decidable (_ ∧ _))

/-- The first nine digits of the fraction, with zeros for those that are not there. -/
def nanos : Nat := decimalValue ((s.fraction ++ List.replicate 9 '0').take 9)

/-- The point in time, `offset` seconds before the civil time. -/
def instant (offset : Int) : Instant where
  seconds := daysSinceEpoch s.year s.month s.day * 86400 +
    (s.hour * 3600 + s.minute * 60 + s.second : Nat) - offset
  nanos := s.nanos

/-! ## The parts of a stamp -/

def date : Date := ⟨s.year, s.month, s.day⟩

def time : TimeOfDay := ⟨s.hour, s.minute, s.second, s.nanos⟩

theorem date_exists : s.date.exists = decide s.DayExists := by
  have hyear := s.year_le
  have hlow : minYear ≤ (s.year : Int) := by
    simp only [minYear]
    omega
  have hhigh : (s.year : Int) ≤ maxYear := by
    simp only [maxYear]
    omega
  simp only [Date.exists, date, daysInMonth_eq, hlow, hhigh, decide_true, Bool.true_and]
  exact (Bool.decide_and _ _).symm

/-- A day that is one of its month is in one of the twelve, and not beyond the thirty-first. -/
theorem bounds_of_dayExists {s : Stamp} (h : s.DayExists) :
    (1 ≤ s.month ∧ s.month ≤ 12) ∧ 1 ≤ s.day ∧ s.day ≤ 31 := by
  obtain ⟨hpos, hle⟩ := h
  have hlength := daysInMonth_le s.year s.month
  rw [daysInMonth_eq] at hlength
  refine ⟨?_, hpos, Nat.le_trans hle hlength⟩
  by_contra hmonth
  have hnone : monthLength s.year s.month = 0 := by
    unfold monthLength
    split <;> omega
  omega

/-- The instant of a stamp is that of its date and time. -/
theorem ofCivil_eq {s : Stamp} (h : s.DayExists) (offset : Int) :
    Instant.ofCivil s.date s.time offset = s.instant offset := by
  have hsecond := s.second_le
  have hmonth := (bounds_of_dayExists h).1.1
  have hleap : s.second ≠ 60 := by omega
  simp only [Instant.ofCivil, date, time, hleap, if_false, Date.number_eq _ _ _ hmonth,
    secondsPerDay, instant]

/-- The digits that are counted are followed by zeros, as those that are missing would be. -/
theorem nanosOf_fraction : nanosOf s.fraction = s.nanos := by
  have hlength : 9 - (s.fraction.take 9).length = 9 - s.fraction.length := by
    rw [List.length_take]
    omega
  have htake : (List.replicate 9 '0').take (9 - s.fraction.length) =
      List.replicate (9 - s.fraction.length) '0' := by
    rw [List.take_replicate, Nat.min_eq_left (Nat.sub_le _ _)]
  simp only [nanosOf, nanos, hlength, List.take_append, htake, decimalValue,
    Nat.ofDigitChars_append, Nat.ofDigitChars_replicate_zero]
  exact Nat.mul_comm _ _

theorem nanos_lt : s.nanos < nanosPerSecond :=
  s.nanosOf_fraction ▸ nanosOf_lt s.fraction_digits

theorem time_valid : s.time.Valid :=
  ⟨s.hour_le, s.minute_le, Nat.le_succ_of_le s.second_le, s.nanos_lt⟩

theorem yearChars_eq : yearChars s.date.year = padded 4 s.year := by
  have hyear := s.year_le
  show yearChars s.year = _
  rw [yearChars, if_neg (by omega), if_neg (by omega), Int.natAbs_natCast]

theorem chars_eq :
    s.chars = dateChars s.date ++ 'T' :: (clockChars s.time ++ s.fractionText) := by
  rw [dateChars, s.yearChars_eq]
  simp only [chars, clockChars, date, time, List.append_assoc, List.cons_append]

/-! ## Reading the parts -/

theorem readFraction_fractionText {rest : List Char} (hdigit : NoDigit rest)
    (hpoint : rest.head? ≠ some '.') :
    readFraction (s.fractionText ++ rest) = .ok (s.nanos, rest) := by
  rw [← s.nanosOf_fraction, fractionText]
  split
  next hnone =>
    rw [hnone, List.nil_append, readFraction_none hpoint]
    rfl
  next hsome => exact readFraction_digits s.fraction_digits hsome hdigit

theorem noDigit_fractionText {rest : List Char} (hdigit : NoDigit rest) :
    NoDigit (s.fractionText ++ rest) := by
  unfold fractionText
  split
  · exact hdigit
  · exact noDigit_cons (by decide) _

end Stamp

theorem exactDigits_padded {width : Nat} (hwidth : 0 < width) {n : Nat} (h : n < 10 ^ width)
    (rest : List Char) : exactDigits width (padded width n ++ rest) = some (n, rest) := by
  have hlength := length_padded hwidth h
  have htake : (padded width n ++ rest).take width = padded width n := List.take_left' hlength
  have hdrop : (padded width n ++ rest).drop width = rest := List.drop_left' hlength
  have hall : (padded width n).all Char.isDigit = true :=
    List.all_eq_true.mpr (digits_padded width n)
  simp only [exactDigits, htake, hdrop, hlength, hall, decimalValue_padded, and_self, if_true]

theorem exactChar_cons (c : Char) (rest : List Char) : exactChar c (c :: rest) = some rest :=
  if_pos rfl

/-- What follows the seconds and their fraction begins with no digit and no point. -/
theorem Zone.noDigit_chars (zone : Zone) :
    NoDigit zone.chars ∧ zone.chars.head? ≠ some '.' := by
  cases zone with
  | unmarked => exact ⟨fun _ h => (nomatch h), by decide⟩
  | utc => exact ⟨noDigit_cons (by decide) _, by decide⟩
  | ahead hours minutes => exact ⟨noDigit_cons (by decide) _, by simp [Zone.chars]⟩
  | behind hours minutes => exact ⟨noDigit_cons (by decide) _, by simp [Zone.chars]⟩

/-- Hours and minutes are read exactly, whatever the sign before them. -/
theorem exactOffset_hours {c : Char} (hletter : ¬(c = 'Z' ∨ c = 'z'))
    (hsign : c = '+' ∨ isMinus c = true) (hours : Fin 24) (minutes : Fin 60) :
    exactOffset (c :: (padded 2 hours ++ ':' :: padded 2 minutes)) =
      some (if c = '+' then ((hours * 3600 + minutes * 60 : Nat) : Int)
        else -((hours * 3600 + minutes * 60 : Nat) : Int)) := by
  have hminutes := exactDigits_padded (by decide) (show (minutes : Nat) < 10 ^ 2 by omega) []
  rw [List.append_nil] at hminutes
  have hhours := exactDigits_padded (by decide) (show (hours : Nat) < 10 ^ 2 by omega)
    (':' :: padded 2 minutes)
  have hbounds : (hours : Nat) ≤ 23 ∧ (minutes : Nat) ≤ 59 ∧ ([] : List Char).isEmpty = true :=
    ⟨by omega, by omega, rfl⟩
  rw [exactOffset, if_neg hletter, if_pos hsign, hhours]
  simp only [Option.bind_eq_bind, Option.bind_some, exactChar_cons, hminutes, if_pos hbounds]

/-- Without an offset nothing is read exactly. -/
theorem Zone.exactOffset_chars (zone : Zone) :
    exactOffset zone.chars = if zone.chars = [] then none else some zone.seconds := by
  cases zone with
  | unmarked => rfl
  | utc => rfl
  | ahead hours minutes =>
    rw [Zone.chars, exactOffset_hours (by decide) (.inl rfl), if_neg (List.cons_ne_nil _ _)]
    simp [Zone.seconds]
  | behind hours minutes =>
    rw [Zone.chars, exactOffset_hours (by decide) (.inr rfl), if_neg (List.cons_ne_nil _ _)]
    simp [Zone.seconds]

namespace Stamp

variable (s : Stamp) (zone : Zone)

theorem exactDate_chars (rest : List Char) :
    exactDate (dateChars s.date ++ rest) =
      if s.DayExists then some (s.date, rest) else none := by
  have hyear := exactDigits_padded (show 0 < 4 by decide) (Nat.lt_succ_of_le s.year_le)
  have hmonth := exactDigits_padded (show 0 < 2 by decide) (Nat.lt_succ_of_le s.month_le)
  have hday := exactDigits_padded (show 0 < 2 by decide) (Nat.lt_succ_of_le s.day_le) rest
  simp only [exactDate, dateChars, s.yearChars_eq, List.append_assoc, List.cons_append,
    show s.date.month = s.month from rfl, show s.date.day = s.day from rfl, hyear, hmonth, hday,
    exactChar_cons, Option.bind_eq_bind, Option.bind_some]
  rw [show (⟨s.year, s.month, s.day⟩ : Date) = s.date from rfl, s.date_exists]
  simp only [decide_eq_true_eq]

theorem exactTime_chars :
    exactTime (clockChars s.time ++ (s.fractionText ++ zone.chars)) = some (s.time, zone.chars) := by
  have hhour := s.hour_le
  have hminute := s.minute_le
  have hsecond := s.second_le
  obtain ⟨hdigit, hpoint⟩ := zone.noDigit_chars
  have hbounds : s.hour ≤ 23 ∧ s.minute ≤ 59 ∧ s.second ≤ 60 := by omega
  simp only [exactTime, clockChars, time, List.append_assoc, List.cons_append,
    exactDigits_padded (show 0 < 2 by decide) (show s.hour < 10 ^ 2 by omega),
    exactDigits_padded (show 0 < 2 by decide) (show s.minute < 10 ^ 2 by omega),
    exactDigits_padded (show 0 < 2 by decide) (show s.second < 10 ^ 2 by omega),
    exactChar_cons, Option.bind_eq_bind, Option.bind_some,
    s.readFraction_fractionText hdigit hpoint, Except.toOption, if_pos hbounds]

/-- The exact form: there is an offset, and the day is one of its month. -/
theorem readExact_chars :
    readExact (s.chars ++ zone.chars) =
      if s.DayExists ∧ zone.chars ≠ [] then some (s.instant zone.seconds) else none := by
  rw [s.chars_eq, List.append_assoc, List.cons_append, List.append_assoc, readExact,
    s.exactDate_chars]
  by_cases hday : s.DayExists
  · simp only [if_pos hday, Option.bind_eq_bind, Option.bind_some, true_or, if_true,
      s.exactTime_chars, zone.exactOffset_chars]
    by_cases hnone : zone.chars = []
    · simp [hnone]
    · simp [hnone, hday, ofCivil_eq hday]
  · simp [hday]

/-- The local form: there is no offset, and the day is one of its month. -/
theorem readLocal_chars :
    (readLocal (s.chars ++ zone.chars)).toOption =
      if s.DayExists ∧ zone.chars = [] then some (s.instant 0) else none := by
  have hyear := s.year_le
  have hmonth := s.month_le
  have hday := s.day_le
  obtain ⟨hdigit, hpoint⟩ := zone.noDigit_chars
  have hrest : NoDigit ('T' :: (clockChars s.time ++ (s.fractionText ++ zone.chars))) :=
    noDigit_cons (by decide) _
  have hdate : readDate id (dateChars s.date ++
      'T' :: (clockChars s.time ++ (s.fractionText ++ zone.chars))) =
      if (1 ≤ s.month ∧ s.month ≤ 12) ∧ 1 ≤ s.day ∧ s.day ≤ 31 then
        .ok (s.date, 'T' :: (clockChars s.time ++ (s.fractionText ++ zone.chars)))
      else .error .outOfRange :=
    readDate_two id (fun _ => rfl) (d := s.date) (show (-1000000 : Int) < s.year by omega)
      (show (s.year : Int) < 1000000 by omega) (show s.month < 100 by omega)
      (show s.day < 100 by omega) hrest
  have htime := readTime_clock id (fun _ => rfl) s.time_valid (s.noDigit_fractionText hdigit)
    (s.readFraction_fractionText hdigit hpoint)
  rw [s.chars_eq, List.append_assoc, List.cons_append, List.append_assoc, readLocal, hdate]
  -- a month or a day out of bounds is no day of a month
  by_cases hbounds : (1 ≤ s.month ∧ s.month ≤ 12) ∧ 1 ≤ s.day ∧ s.day ≤ 31
  · rw [if_pos hbounds]
    simp only [bind, Except.bind, readLiteral_cons, htime, s.date_exists]
    by_cases hnone : zone.chars = []
    · by_cases hexists : s.DayExists
      · simp [hnone, hexists, ofCivil_eq hexists, Except.toOption]
      · simp [hnone, hexists, Except.toOption]
    · simp [hnone, Except.toOption]
  · rw [if_neg hbounds, if_neg fun h => hbounds (bounds_of_dayExists h.1)]
    rfl

/-- A date of a scan denotes the instant that the calendar gives it, and a text without an offset
the same as with that of UTC. -/
theorem readScanDate_chars :
    (∀ zone : Zone, readScanDate (String.ofList (s.chars ++ zone.chars)) =
      if s.DayExists then some (s.instant zone.seconds) else none) ∧
    readScanDate (String.ofList s.chars) = readScanDate (String.ofList (s.chars ++ ['Z'])) := by
  have hread : ∀ zone : Zone, readScanDate (String.ofList (s.chars ++ zone.chars)) =
      if s.DayExists then some (s.instant zone.seconds) else none := by
    intro zone
    rw [readScanDate, String.toList_ofList, s.readExact_chars, s.readLocal_chars]
    by_cases hday : s.DayExists
    · cases zone with
      | unmarked => simp [hday, Zone.chars, Zone.seconds]
      | utc => simp [hday, Zone.chars]
      | ahead hours minutes => simp [hday, Zone.chars]
      | behind hours minutes => simp [hday, Zone.chars]
    · simp [hday]
  refine ⟨hread, ?_⟩
  have hunmarked := hread .unmarked
  rw [Zone.chars, List.append_nil] at hunmarked
  rw [hunmarked]
  exact (hread .utc).symm

/-- Half a second past half past eleven on a leap day. -/
def leapDay : Stamp where
  year := 2024
  month := 2
  day := 29
  hour := 23
  minute := 30
  second := 0
  fraction := ['5']
  year_le := by decide
  month_le := by decide
  day_le := by decide
  hour_le := by decide
  minute_le := by decide
  second_le := by decide
  fraction_digits := by simp [Digits]

/-- Behind UTC by an hour and a half the next month has begun. -/
theorem readScanDate_leapDay :
    leapDay.DayExists ∧
      readScanDate "2024-02-29T23:30:00.5-01:30" = some ⟨1709254800, 500000000⟩ := by
  have hday : leapDay.DayExists := by decide
  have htext : String.ofList (leapDay.chars ++ (Zone.behind 1 30).chars) =
      "2024-02-29T23:30:00.5-01:30" := by
    decide +kernel
  have hinstant : leapDay.instant (Zone.behind 1 30).seconds = ⟨1709254800, 500000000⟩ := by
    decide +kernel
  obtain ⟨hread, _⟩ := leapDay.readScanDate_chars
  refine ⟨hday, ?_⟩
  rw [← htext, hread (.behind 1 30), if_pos hday, hinstant]

end Stamp

end ScanClient.Calendar
