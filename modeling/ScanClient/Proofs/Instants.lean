import ScanClient.Calendar.Written
import ScanClient.Proofs.Dates
import ScanClient.Proofs.Decimals
import ScanClient.Proofs.Except

/-!
# Writing and reading instants

An instant is written in UTC, whatever form it was read in, and read back in the free form. What is
read as the date of a scan can be written: its date is one of the calendar, and a leap second comes
at the end of a minute.
-/

namespace ScanClient.Calendar

/-- The numbers of a time of day are within their bounds. -/
structure TimeOfDay.Valid (t : TimeOfDay) : Prop where
  hour_le : t.hour ≤ 23
  minute_le : t.minute ≤ 59
  second_le : t.second ≤ 60
  nanos_lt : t.nanos < nanosPerSecond

/-- An instant that can be written. -/
structure Instant.Writable (i : Instant) : Prop where
  nanos_lt : i.nanos < 2 * nanosPerSecond
  /-- A leap second is the last of its minute. -/
  seconds_of_leap : nanosPerSecond ≤ i.nanos → i.seconds % 60 = 59
  inRange : i.inRange = true

/-! ## Dates of scans -/

/-- Digits behind a point are a part of a second. -/
theorem nanosOf_lt {ds : List Char} (hds : Digits ds) : nanosOf ds < nanosPerSecond := by
  have hcounted : Digits (ds.take 9) := fun c hc => hds c (List.mem_of_mem_take hc)
  have hlt := decimalValue_lt hcounted
  have hlength : (ds.take 9).length ≤ 9 := by
    rw [List.length_take]
    exact Nat.min_le_left _ _
  calc decimalValue (ds.take 9) * 10 ^ (9 - (ds.take 9).length)
      < 10 ^ (ds.take 9).length * 10 ^ (9 - (ds.take 9).length) :=
        Nat.mul_lt_mul_of_pos_right hlt (Nat.pow_pos (by decide))
    _ = 10 ^ 9 := by rw [← Nat.pow_add, Nat.add_sub_cancel' hlength]

theorem digits_takeWhile (s : List Char) : Digits (s.takeWhile Char.isDigit) :=
  List.all_eq_true.mp List.all_takeWhile

theorem readFraction_lt {s rest : List Char} {nanos : Nat}
    (h : readFraction s = .ok (nanos, rest)) : nanos < nanosPerSecond := by
  unfold readFraction at h
  split at h
  · simp only at h
    split at h
    · cases h
    · split at h
      · cases h
      · cases h
        exact nanosOf_lt (digits_takeWhile _)
  · cases h
    decide

theorem readPart_bounds {low high n : Nat} {s rest : List Char}
    (h : readPart low high s = .ok (n, rest)) : low ≤ n ∧ n ≤ high := by
  obtain ⟨⟨m, more⟩, _, h⟩ := bind_eq_ok.mp h
  simp only at h
  split at h
  · cases h
  · cases h
    omega

theorem valid_of_readTime {gap : List Char → List Char} {s rest : List Char} {t : TimeOfDay}
    (h : readTime gap s = .ok (t, rest)) : t.Valid := by
  obtain ⟨⟨hour, s₁⟩, hhour, h⟩ := bind_eq_ok.mp h
  obtain ⟨s₂, _, h⟩ := bind_eq_ok.mp h
  obtain ⟨⟨minute, s₃⟩, hminute, h⟩ := bind_eq_ok.mp h
  obtain ⟨s₄, _, h⟩ := bind_eq_ok.mp h
  obtain ⟨⟨second, s₅⟩, hsecond, h⟩ := bind_eq_ok.mp h
  obtain ⟨⟨nanos, s₆⟩, hnanos, h⟩ := bind_eq_ok.mp h
  cases h
  exact ⟨(readPart_bounds hhour).2, (readPart_bounds hminute).2, (readPart_bounds hsecond).2,
    readFraction_lt hnanos⟩

theorem valid_of_exactTime {s rest : List Char} {t : TimeOfDay}
    (h : exactTime s = some (t, rest)) : t.Valid := by
  obtain ⟨⟨hour, s₁⟩, _, h⟩ := Option.bind_eq_some_iff.mp h
  obtain ⟨s₂, _, h⟩ := Option.bind_eq_some_iff.mp h
  obtain ⟨⟨minute, s₃⟩, _, h⟩ := Option.bind_eq_some_iff.mp h
  obtain ⟨s₄, _, h⟩ := Option.bind_eq_some_iff.mp h
  obtain ⟨⟨second, s₅⟩, _, h⟩ := Option.bind_eq_some_iff.mp h
  obtain ⟨⟨nanos, s₆⟩, hnanos, h⟩ := Option.bind_eq_some_iff.mp h
  simp only at h
  split at h
  next hbounds =>
    cases h
    exact ⟨hbounds.1, hbounds.2.1, hbounds.2.2, readFraction_lt (toOption_eq_some hnanos)⟩
  next => cases h

/-- Where an instant lies that is told by a date and a time of day. -/
theorem TimeOfDay.Valid.seconds_ofCivil {t : TimeOfDay} (valid : t.Valid) (d : Date) (offset : Int) :
    let i := Instant.ofCivil d t offset
    ∃ n : Nat, i.seconds = d.number * secondsPerDay + n - offset ∧ n < 86400 ∧
      (nanosPerSecond ≤ i.nanos → n % 60 = 59) := by
  obtain ⟨hour, minute, second, nanos⟩ := t
  obtain ⟨hhour, hminute, hsecond, hnanos⟩ := valid
  simp only at hhour hminute hsecond hnanos
  intro i
  -- the sixtieth second counts as the one before it, with a second more in nanoseconds
  by_cases hleap : second = 60
  · refine ⟨hour * 3600 + minute * 60 + 59, ?_, by omega, fun _ => by omega⟩
    simp only [i, Instant.ofCivil, if_pos hleap]
  · refine ⟨hour * 3600 + minute * 60 + second, ?_, by omega, fun h => ?_⟩
    · simp only [i, Instant.ofCivil, if_neg hleap]
    · simp only [i, Instant.ofCivil, if_neg hleap] at h
      omega

theorem TimeOfDay.Valid.nanos_ofCivil {t : TimeOfDay} (valid : t.Valid) (d : Date) (offset : Int) :
    (Instant.ofCivil d t offset).nanos < 2 * nanosPerSecond := by
  have hnanos := valid.nanos_lt
  simp only [Instant.ofCivil]
  split <;> omega

/-- An instant that is told by a date and a time of day can be written if the offset is one of whole
minutes and does not lead out of the calendar. -/
theorem TimeOfDay.Valid.writable {t : TimeOfDay} (valid : t.Valid) (d : Date) {offset : Int}
    (hoffset : offset % 60 = 0) (hrange : (Instant.ofCivil d t offset).inRange = true) :
    (Instant.ofCivil d t offset).Writable where
  nanos_lt := valid.nanos_ofCivil d offset
  seconds_of_leap h := by
    obtain ⟨n, hseconds, _, hleap⟩ := valid.seconds_ofCivil d offset
    have hn := hleap h
    rw [hseconds, secondsPerDay]
    omega
  inRange := hrange

/-- Without an offset the instant has the date it was told by. -/
theorem TimeOfDay.Valid.inRange_ofCivil {t : TimeOfDay} (valid : t.Valid) {d : Date}
    (hd : d.exists = true) : (Instant.ofCivil d t 0).inRange = true := by
  obtain ⟨n, hseconds, hn, _⟩ := valid.seconds_ofCivil d 0
  have hday : (Instant.ofCivil d t 0).seconds / secondsPerDay = d.number := by
    rw [hseconds, secondsPerDay]
    omega
  simp only [Date.exists, Bool.and_eq_true] at hd
  rw [Instant.inRange, Instant.date, hday, Date.year_ofNumber (by simp only [Date.exists, hd]; rfl)]
  simp only [hd, Bool.and_self]

theorem writable_of_readLocal {s : List Char} {i : Instant} (h : readLocal s = .ok i) :
    i.Writable := by
  obtain ⟨⟨d, s₁⟩, _, h⟩ := bind_eq_ok.mp h
  obtain ⟨s₂, _, h⟩ := bind_eq_ok.mp h
  obtain ⟨⟨t, s₃⟩, htime, h⟩ := bind_eq_ok.mp h
  have valid := valid_of_readTime htime
  simp only at h
  split at h
  · cases h
  · split at h
    · cases h
    next hexists =>
      cases h
      have hd : d.exists = true := by simpa using hexists
      exact valid.writable d rfl (valid.inRange_ofCivil hd)

theorem exactDigits_lt {count n : Nat} {s rest : List Char}
    (h : exactDigits count s = some (n, rest)) : n < 10 ^ count := by
  unfold exactDigits at h
  simp only at h
  split at h
  next hdigits =>
    cases h
    have hlt := decimalValue_lt (List.all_eq_true.mp hdigits.2)
    rw [hdigits.1] at hlt
    exact hlt
  next => cases h

theorem exactDate_bounds {s rest : List Char} {d : Date} (h : exactDate s = some (d, rest)) :
    d.exists = true ∧ 0 ≤ d.year ∧ d.year < 10000 := by
  obtain ⟨⟨year, s₁⟩, hyear, h⟩ := Option.bind_eq_some_iff.mp h
  obtain ⟨s₂, _, h⟩ := Option.bind_eq_some_iff.mp h
  obtain ⟨⟨month, s₃⟩, _, h⟩ := Option.bind_eq_some_iff.mp h
  obtain ⟨s₄, _, h⟩ := Option.bind_eq_some_iff.mp h
  obtain ⟨⟨day, s₅⟩, _, h⟩ := Option.bind_eq_some_iff.mp h
  have hlt := exactDigits_lt hyear
  simp only at h
  split at h
  next hexists =>
    cases h
    exact ⟨hexists, Int.natCast_nonneg year, Int.ofNat_lt.mpr hlt⟩
  next => cases h

/-- An offset is one of whole minutes, and shorter than a day. -/
theorem exactOffset_bounds {s : List Char} {offset : Int} (h : exactOffset s = some offset) :
    offset % 60 = 0 ∧ -86400 < offset ∧ offset < 86400 := by
  unfold exactOffset at h
  split at h
  · cases h
  split at h
  · split at h
    · cases h
      decide
    · cases h
  split at h
  · obtain ⟨⟨hours, s₁⟩, _, h⟩ := Option.bind_eq_some_iff.mp h
    obtain ⟨s₂, _, h⟩ := Option.bind_eq_some_iff.mp h
    obtain ⟨⟨minutes, s₃⟩, _, h⟩ := Option.bind_eq_some_iff.mp h
    simp only at h
    split at h
    next hbounds =>
      cases h
      obtain ⟨hhours, hminutes, _⟩ := hbounds
      split <;> omega
    next => cases h
  · cases h

/-- A year of four digits is still one of the calendar when an offset has led into the next. -/
theorem TimeOfDay.Valid.inRange_offset {t : TimeOfDay} (valid : t.Valid) {d : Date}
    (hd : d.exists = true) (hyear : 0 ≤ d.year ∧ d.year < 10000) {offset : Int}
    (hoffset : -86400 < offset ∧ offset < 86400) :
    (Instant.ofCivil d t offset).inRange = true := by
  obtain ⟨n, hseconds, hn, _⟩ := valid.seconds_ofCivil d offset
  obtain ⟨hle, hlt⟩ := Date.number_bounds hd
  have hfirst := daysBeforeYear_le hyear.1
  have hlast := daysBeforeYear_le (show d.year + 1 ≤ 10000 by omega)
  have hspec := yearOf_spec ((Instant.ofCivil d t offset).seconds / secondsPerDay + epochDays)
  rw [Instant.inRange, Instant.date, (Date.ofNumber_spec _).2.1]
  rw [hseconds, secondsPerDay] at hspec ⊢
  -- of the year that is found only its bounds matter
  generalize yearOf ((d.number * 86400 + n - offset) / 86400 + epochDays) = year at hspec ⊢
  simp only [Bool.and_eq_true, decide_eq_true_eq]
  simp only [daysBeforeYear, epochDays, minYear, maxYear] at hspec hfirst hlast hle hlt ⊢
  omega

theorem writable_of_readExact {s : List Char} {i : Instant} (h : readExact s = some i) :
    i.Writable := by
  obtain ⟨⟨d, s₁⟩, hdate, h⟩ := Option.bind_eq_some_iff.mp h
  -- a letter or a blank stands between the date and the time
  obtain ⟨rest, h⟩ : ∃ rest, ((exactTime rest).bind fun time =>
      (exactOffset time.2).bind fun offset =>
        some (Instant.ofCivil d time.1 offset)) = some i := by
    simp only at h
    split at h
    · cases h
    · split at h
      · exact ⟨_, h⟩
      · cases h
  obtain ⟨⟨t, s₃⟩, htime, h⟩ := Option.bind_eq_some_iff.mp h
  obtain ⟨offset, hoffset, h⟩ := Option.bind_eq_some_iff.mp h
  cases h
  have valid := valid_of_exactTime htime
  obtain ⟨hexists, hyear⟩ := exactDate_bounds hdate
  obtain ⟨hminutes, hday⟩ := exactOffset_bounds hoffset
  exact valid.writable d hminutes (valid.inRange_offset hexists hyear hday)

/-- What is read as the date of a scan can be written. -/
theorem writable_of_readScanDate {text : String} {i : Instant} (h : readScanDate text = some i) :
    i.Writable := by
  unfold readScanDate at h
  split at h
  next hexact =>
    cases h
    exact writable_of_readExact hexact
  next => exact writable_of_readLocal (toOption_eq_some h)

/-! ## Numbers -/

theorem trimStart_cons {c : Char} (h : Text.isBlank c = false) (rest : List Char) :
    trimStart (c :: rest) = c :: rest := by
  rw [trimStart, List.dropWhile_cons, h]
  rfl

theorem trimStart_digits {ds : List Char} (hds : Digits ds) (hne : ds ≠ []) (rest : List Char) :
    trimStart (ds ++ rest) = ds ++ rest := by
  obtain ⟨c, more, rfl⟩ := List.exists_cons_of_ne_nil hne
  exact trimStart_cons (isBlank_of_isDigit (hds c List.mem_cons_self)) _

theorem isEmpty_append {s : List Char} (hne : s ≠ []) (t : List Char) :
    (s ++ t).isEmpty = false := by
  obtain ⟨c, more, rfl⟩ := List.exists_cons_of_ne_nil hne
  rfl

/-- Digits are read up to what follows them, if there are not too many. -/
theorem readDecimal_append {ds rest : List Char} (hds : Digits ds) (hne : ds ≠ [])
    (hrest : NoDigit rest) (width : Option Nat) (hwidth : ∀ n, width = some n → ds.length ≤ n)
    (hlt : decimalValue ds < 2 ^ 63) :
    readDecimal width (ds ++ rest) = .ok (decimalValue ds, rest) := by
  have hvalue : ¬Nat.pow 2 63 ≤ decimalValue ds := Nat.not_le.mpr hlt
  have hsome := List.isEmpty_eq_false_iff.mpr hne
  have htext := isEmpty_append hne rest
  cases width with
  | none =>
    simp only [readDecimal, takeWhile_digits hds hrest, htext, hsome, List.drop_left,
      Bool.false_eq_true, if_false, if_neg hvalue]
  | some n =>
    have htaken : ds.take n = ds := List.take_of_length_le (hwidth n rfl)
    simp only [readDecimal, takeWhile_digits hds hrest, htaken, htext, hsome, List.drop_left,
      Bool.false_eq_true, if_false, if_neg hvalue]

/-- Two digits are a number, within the bounds or not. -/
theorem readPart_two (low high : Nat) {n : Nat} (hn : n < 100) {rest : List Char}
    (hrest : NoDigit rest) :
    readPart low high (padded 2 n ++ rest) =
      if n < low ∨ high < n then .error .outOfRange else .ok (n, rest) := by
  have hvalue := decimalValue_padded 2 n
  have hlength : (padded 2 n).length = 2 := length_padded (by decide) hn
  have hread := readDecimal_append (digits_padded 2 n) (padded_ne_nil 2 n) hrest
    (some 2) (fun _ h => Option.some.inj h ▸ Nat.le_of_eq hlength) (by omega)
  rw [hvalue] at hread
  rw [readPart, trimStart_digits (digits_padded 2 n) (padded_ne_nil 2 n), hread]
  rfl

theorem readPart_padded {low high n : Nat} (hlow : low ≤ n) (hhigh : n ≤ high) (hn : n < 100)
    {rest : List Char} (hrest : NoDigit rest) :
    readPart low high (padded 2 n ++ rest) = .ok (n, rest) := by
  rw [readPart_two low high hn hrest, if_neg (by omega)]

/-- Digits behind a point, as many as there are. -/
theorem readFraction_digits {ds : List Char} (hds : Digits ds) (hne : ds ≠ []) {rest : List Char}
    (hrest : NoDigit rest) : readFraction ('.' :: (ds ++ rest)) = .ok (nanosOf ds, rest) := by
  simp only [readFraction, takeWhile_digits hds hrest, dropWhile_digits hds hrest,
    isEmpty_append hne rest, List.isEmpty_eq_false_iff.mpr hne]
  rfl

/-- What begins with no point has no fraction. -/
theorem readFraction_none {rest : List Char} (h : rest.head? ≠ some '.') :
    readFraction rest = .ok (0, rest) := by
  unfold readFraction
  split
  · exact absurd rfl h
  · rfl

/-- A number that is written behind a point, with as many digits as it has places. -/
theorem readFraction_point {width : Nat} (hwidth : 0 < width ∧ width ≤ 9) {n : Nat}
    (hn : n < 10 ^ width) {rest : List Char} (hrest : NoDigit rest) :
    readFraction ('.' :: (padded width n ++ rest)) = .ok (n * 10 ^ (9 - width), rest) := by
  have hlength := length_padded hwidth.1 hn
  have hnanos : nanosOf (padded width n) = n * 10 ^ (9 - width) := by
    have htake : (padded width n).take 9 = padded width n :=
      List.take_of_length_le (by omega)
    simp only [nanosOf, htake, decimalValue_padded, hlength]
    rfl
  rw [readFraction_digits (digits_padded width n) (padded_ne_nil width n) hrest, hnanos]

theorem readFraction_append {nanos : Nat} (hnanos : nanos < nanosPerSecond) {c : Char}
    (hdigit : c.isDigit = false) (hpoint : c ≠ '.') (rest : List Char) :
    readFraction (fractionChars nanos ++ c :: rest) = .ok (nanos, c :: rest) := by
  have hrest := noDigit_cons hdigit rest
  have hlt : nanos < 1000000000 := hnanos
  -- none, three, six or nine places are written, as many as are needed
  unfold fractionChars
  split
  next hzero =>
    exact hzero ▸ readFraction_none fun h => hpoint (Option.some.inj h)
  split
  next hmilli =>
    have hfits : nanos / 1000000 < 10 ^ 3 := by omega
    have hread := readFraction_point (by decide) hfits hrest
    rw [show nanos / 1000000 * 10 ^ (9 - 3) = nanos by omega] at hread
    exact hread
  split
  next hmicro =>
    have hfits : nanos / 1000 < 10 ^ 6 := by omega
    have hread := readFraction_point (by decide) hfits hrest
    rw [show nanos / 1000 * 10 ^ (9 - 6) = nanos by omega] at hread
    exact hread
  next =>
    have hfits : nanos < 10 ^ 9 := by omega
    have hread := readFraction_point (by decide) hfits hrest
    rw [show nanos * 10 ^ (9 - 9) = nanos by omega] at hread
    exact hread

/-! ## Instants -/

theorem readLiteral_cons (c : Char) (rest : List Char) : readLiteral c (c :: rest) = .ok rest :=
  if_pos rfl

/-- A year is read with its sign, or as four digits. -/
theorem readYear_yearChars {year : Int} (hlow : -1000000 < year) (hhigh : year < 1000000)
    {rest : List Char} (hrest : NoDigit rest) :
    readYear (yearChars year ++ rest) = .ok (year, rest) := by
  have hdigits := digits_padded 4 year.natAbs
  have hne := padded_ne_nil 4 year.natAbs
  have hvalue := decimalValue_padded 4 year.natAbs
  have hread := readDecimal_append hdigits hne hrest none (fun _ h => nomatch h) (by omega)
  rw [hvalue] at hread
  -- with a minus sign, with a plus sign, or with four digits and no sign
  unfold yearChars
  split
  next hnegative =>
    rw [readYear, List.cons_append, trimStart_cons (by decide)]
    simp only [hread]
    show (if -(year.natAbs : Int) < -2147483648 ∨ 2147483647 < -(year.natAbs : Int) then _
      else _) = _
    rw [if_neg (by omega), show -(year.natAbs : Int) = year by omega]
  split
  next hnegative hlong =>
    rw [readYear, List.cons_append, trimStart_cons (by decide)]
    simp only [hread]
    show (if (year.natAbs : Int) < -2147483648 ∨ 2147483647 < (year.natAbs : Int) then _
      else _) = _
    rw [if_neg (by omega), show (year.natAbs : Int) = year by omega]
  next hnegative hlong =>
    have hfits : year.natAbs < 10 ^ 4 := by omega
    have hlength := length_padded (by decide) hfits
    have hfour := readDecimal_append hdigits hne hrest (some 4)
      (fun _ h => Option.some.inj h ▸ Nat.le_of_eq hlength) (by omega)
    rw [hvalue] at hfour
    rw [readYear, trimStart_digits hdigits hne]
    -- digits begin with no sign
    split
    next more hmore =>
      cases hdigits.isDigit_of_append hne hmore
    next more hmore =>
      cases hdigits.isDigit_of_append hne hmore
    next =>
      simp only [hfour]
      show (if (year.natAbs : Int) < -2147483648 ∨ 2147483647 < (year.natAbs : Int) then _
        else _) = _
      rw [if_neg (by omega), show (year.natAbs : Int) = year by omega]

/-- A date is read but for its day, which need not be one of its month. -/
theorem readDate_two (gap : List Char → List Char)
    (hgap : ∀ more : List Char, gap ('-' :: more) = '-' :: more) {d : Date}
    (hlow : -1000000 < d.year) (hhigh : d.year < 1000000) (hmonth : d.month < 100)
    (hday : d.day < 100) {rest : List Char} (hrest : NoDigit rest) :
    readDate gap (dateChars d ++ rest) =
      if (1 ≤ d.month ∧ d.month ≤ 12) ∧ 1 ≤ d.day ∧ d.day ≤ 31 then .ok (d, rest)
      else .error .outOfRange := by
  have hyear := readYear_yearChars hlow hhigh (noDigit_cons (c := '-') (by decide)
    (padded 2 d.month ++ '-' :: (padded 2 d.day ++ rest)))
  have hmonth := readPart_two 1 12 hmonth
    (noDigit_cons (c := '-') (by decide) (padded 2 d.day ++ rest))
  have hday := readPart_two 1 31 hday hrest
  simp only [dateChars, readDate, List.append_assoc, List.cons_append, hyear, hgap,
    readLiteral_cons, hmonth, bind, Except.bind]
  by_cases hout : d.month < 1 ∨ 12 < d.month
  · rw [if_pos hout, if_neg (by omega)]
  · rw [if_neg hout]
    simp only [hgap, readLiteral_cons, hday]
    by_cases hout' : d.day < 1 ∨ 31 < d.day
    · rw [if_pos hout', if_neg (by omega)]
    · rw [if_neg hout', if_pos (by omega)]
      rfl

theorem readDate_dateChars {d : Date} (hlow : -1000000 < d.year) (hhigh : d.year < 1000000)
    (hmonth : 1 ≤ d.month ∧ d.month ≤ 12) (hday : 1 ≤ d.day ∧ d.day ≤ 31) {rest : List Char}
    (hrest : NoDigit rest) : readDate trimStart (dateChars d ++ rest) = .ok (d, rest) := by
  rw [readDate_two trimStart (trimStart_cons (by decide)) hlow hhigh (by omega) (by omega) hrest,
    if_pos ⟨hmonth, hday⟩]

/-- A time is read up to what its fraction leaves. -/
theorem readTime_clock (gap : List Char → List Char)
    (hgap : ∀ more : List Char, gap (':' :: more) = ':' :: more) {t : TimeOfDay} (valid : t.Valid)
    {behind rest : List Char} (hbehind : NoDigit behind)
    (hnanos : readFraction behind = .ok (t.nanos, rest)) :
    readTime gap (clockChars t ++ behind) = .ok (t, rest) := by
  have hhour := readPart_padded (Nat.zero_le _) valid.hour_le (by have := valid.hour_le; omega)
    (noDigit_cons (c := ':') (by decide)
      (padded 2 t.minute ++ ':' :: (padded 2 t.second ++ behind)))
  have hminute := readPart_padded (Nat.zero_le _) valid.minute_le
    (by have := valid.minute_le; omega) (noDigit_cons (c := ':') (by decide)
      (padded 2 t.second ++ behind))
  have hsecond := readPart_padded (Nat.zero_le _) valid.second_le
    (by have := valid.second_le; omega) hbehind
  simp only [clockChars, List.append_assoc, List.cons_append]
  refine bind_eq_ok.mpr ⟨_, hhour, ?_⟩
  simp only [hgap, readLiteral_cons]
  refine bind_eq_ok.mpr ⟨_, rfl, bind_eq_ok.mpr ⟨_, hminute, ?_⟩⟩
  simp only [hgap, readLiteral_cons]
  refine bind_eq_ok.mpr ⟨_, rfl, bind_eq_ok.mpr ⟨_, hsecond, ?_⟩⟩
  exact bind_eq_ok.mpr ⟨_, hnanos, rfl⟩

theorem readTime_clockChars {t : TimeOfDay} (valid : t.Valid) {c : Char}
    (hdigit : c.isDigit = false) (hpoint : c ≠ '.') (rest : List Char) :
    readTime trimStart (clockChars t ++ (fractionChars t.nanos ++ c :: rest)) =
      .ok (t, c :: rest) := by
  -- the seconds end at a point, or at what follows the time
  have hbehind : NoDigit (fractionChars t.nanos ++ c :: rest) := by
    unfold fractionChars
    split
    · exact noDigit_cons hdigit rest
    split
    · exact noDigit_cons (by decide) _
    split
    · exact noDigit_cons (by decide) _
    · exact noDigit_cons (by decide) _
  exact readTime_clock trimStart (trimStart_cons (by decide)) valid hbehind
    (readFraction_append valid.nanos_lt hdigit hpoint rest)

namespace Instant.Writable

variable {i : Instant}

theorem time_valid (writable : i.Writable) : i.time.Valid := by
  have hnanos := writable.nanos_lt
  have hday : i.seconds % secondsPerDay < 86400 := Int.emod_lt_of_pos _ (by decide)
  have hpos : 0 ≤ i.seconds % secondsPerDay := Int.emod_nonneg _ (by decide)
  have hleap : i.nanos / nanosPerSecond ≤ 1 := by
    simp only [nanosPerSecond] at hnanos ⊢
    omega
  refine ⟨?_, ?_, ?_, Nat.mod_lt _ (by decide)⟩
  · simp only [time]
    omega
  · simp only [time]
    omega
  · simp only [time]
    omega

/-- An instant is told by its date and its time of day. -/
theorem ofCivil_date_time (writable : i.Writable) : ofCivil i.date i.time 0 = i := by
  obtain ⟨seconds, nanos⟩ := i
  have hnanos := writable.nanos_lt
  have hleap := writable.seconds_of_leap
  simp only [nanosPerSecond] at hnanos hleap
  have hnumber : (Instant.date ⟨seconds, nanos⟩).number = seconds / 86400 :=
    (Date.ofNumber_spec _).1
  have hsecond : (time ⟨seconds, nanos⟩).second =
      (seconds % 86400).toNat % 60 + nanos / 1000000000 := rfl
  by_cases hlong : 1000000000 ≤ nanos
  · -- a leap second is the sixtieth of its minute, which counts as the one before
    have hlast := hleap hlong
    have hsixty : (time ⟨seconds, nanos⟩).second = 60 := by omega
    simp only [ofCivil, if_pos hsixty]
    simp only [hnumber, time, secondsPerDay, nanosPerSecond, mk.injEq]
    omega
  · have hless : (time ⟨seconds, nanos⟩).second ≠ 60 := by omega
    simp only [ofCivil, if_neg hless]
    simp only [hnumber, time, secondsPerDay, nanosPerSecond, mk.injEq]
    omega

/-- An instant is read as it was written. -/
theorem readFree_written (writable : i.Writable) : readFree i.written.toList = .ok i := by
  have valid := writable.time_valid
  have hrange := writable.inRange
  obtain ⟨_, _, hmonthPos, hmonth, hdayPos, hday⟩ := Date.ofNumber_spec (i.seconds / secondsPerDay)
  have hlength := daysInMonth_le i.date.year i.date.month
  simp only [Instant.inRange, Bool.and_eq_true, decide_eq_true_eq] at hrange
  obtain ⟨hlow, hhigh⟩ := hrange
  have hyears : -1000000 < i.date.year ∧ i.date.year < 1000000 := by
    simp only [minYear, maxYear] at hlow hhigh
    omega
  have hdate := readDate_dateChars (d := i.date) hyears.1 hyears.2 ⟨hmonthPos, hmonth⟩
    ⟨hdayPos, Nat.le_trans hday hlength⟩ (noDigit_cons (c := 'T') (by decide)
      (clockChars i.time ++ (fractionChars i.time.nanos ++ ['Z'])))
  have htime := readTime_clockChars valid (c := 'Z') (by decide) (by decide) []
  have hexists : i.date.exists = true := by
    simp only [Date.exists, Bool.and_eq_true, decide_eq_true_eq]
    exact ⟨⟨⟨hlow, hhigh⟩, hdayPos⟩, hday⟩
  simp only [written, String.toList_ofList, List.append_assoc, List.cons_append]
  have hzone : readZone (trimStart ['Z']) = .ok (0, []) := by
    rw [trimStart_cons (by decide)]
    rfl
  refine bind_eq_ok.mpr ⟨_, hdate, ?_⟩
  simp only [true_or, if_true]
  refine bind_eq_ok.mpr ⟨_, rfl, bind_eq_ok.mpr ⟨_, htime, bind_eq_ok.mpr ⟨_, hzone, ?_⟩⟩⟩
  simp only [writable.ofCivil_date_time, hexists, writable.inRange]
  rfl

end Instant.Writable

end ScanClient.Calendar
