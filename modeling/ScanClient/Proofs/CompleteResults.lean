import Mathlib.Algebra.Order.Field.Power
import Mathlib.Algebra.Order.Field.Rat
import ScanClient.Proofs.Except
import ScanClient.Proofs.Shortest
import ScanClient.Response

/-!
# Complete results

A response holds a result if nothing that a result needs is missing, its probability is a number
between 0 and 1, and its date can be read. Otherwise the error names the first of the four fields that
is not as it should be.
-/

namespace ScanClient

/-! ## Probabilities -/

namespace Double

/-- The number that a finite double is. Both zeros are the same number. -/
def value? : Double → Option ℚ
  | .finite negative m e => some ((if negative then -(m : ℚ) else m) * 2 ^ e)
  | _ => none

/-- A number between 0 and 1, such as either zero, and neither what is infinite nor what is not a
number. -/
def IsProbability (x : Double) : Prop := ∃ p, x.value? = some p ∧ 0 ≤ p ∧ p ≤ 1

/-- The value at a scale is the number itself in units of the scale. -/
theorem atScale_mul (negative : Bool) (m : Nat) {e base : Int} (h : base ≤ e) :
    (atScale negative m e base : ℚ) * 2 ^ base = (if negative then -(m : ℚ) else m) * 2 ^ e := by
  have hpow : ((m * Nat.pow 2 (e - base).toNat : Nat) : ℚ) * 2 ^ base = m * 2 ^ e := by
    have hsum : e = ((e - base).toNat : Int) + base := by omega
    rw [Nat.pow_eq, Nat.cast_mul, Nat.cast_pow, Nat.cast_ofNat, mul_assoc, ← zpow_natCast,
      ← zpow_add₀ (by decide : (2 : ℚ) ≠ 0), ← hsum]
  cases negative with
  | false => exact hpow
  | true =>
    show ((-((m * Nat.pow 2 (e - base).toNat : Nat) : Int) : Int) : ℚ) * 2 ^ base = -(m : ℚ) * 2 ^ e
    rw [Int.cast_neg, Int.cast_natCast, neg_mul, neg_mul, hpow]

/-- Finite doubles are in the order of their numbers. -/
theorem le_iff_of_value? {x y : Double} {p q : ℚ} (hx : x.value? = some p)
    (hy : y.value? = some q) : x.le y = true ↔ p ≤ q := by
  cases x with
  | finite s m e =>
    cases y with
    | finite t n f =>
      cases hx
      cases hy
      rw [le_finite_iff, ← atScale_mul s m (Int.min_le_left e f),
        ← atScale_mul t n (Int.min_le_right e f),
        mul_le_mul_iff_left₀ (zpow_pos (by decide : (0 : ℚ) < 2) _), Int.cast_le]
    | infinite t => cases hy
    | notANumber => cases hy
  | infinite s => cases hx
  | notANumber => cases hx

theorem value?_zero : zero.value? = some 0 := by
  rw [zero_eq]
  show some ((0 : ℚ) * 2 ^ (-1074 : Int)) = some 0
  rw [zero_mul]

theorem value?_one : one.value? = some 1 := by
  rw [one_eq]
  show some (((2 ^ 52 : Nat) : ℚ) * 2 ^ (-52 : Int)) = some 1
  norm_num

theorem isProbability_iff {x : Double} :
    x.IsProbability ↔ zero.le x = true ∧ x.le one = true := by
  constructor
  · rintro ⟨p, hp, hzero, hone⟩
    exact ⟨(le_iff_of_value? value?_zero hp).mpr hzero, (le_iff_of_value? hp value?_one).mpr hone⟩
  · rintro ⟨hzero, hone⟩
    obtain ⟨negative, m, e, rfl, _⟩ := finite_of_le hzero hone
    exact ⟨_, rfl, (le_iff_of_value? value?_zero rfl).mp hzero,
      (le_iff_of_value? rfl value?_one).mp hone⟩

end Double

namespace Response

/-! ## What can be wrong -/

/-- The fields that a result needs. -/
inductive Needed where
  | filename
  | isMalicious
  | probability
  | scanDate

/-- The name of a field in a response. -/
def Needed.name : Needed → String
  | .filename => "filename"
  | .isMalicious => "is_malicious"
  | .probability => "malicious_probability"
  | .scanDate => "scan_date"

/-- The place of a field in the order in which they are looked at. -/
def Needed.place : Needed → Nat
  | .filename => 0
  | .isMalicious => 1
  | .probability => 2
  | .scanDate => 3

inductive Defect where
  | missing (field : Needed)
  | outside (probability : Double)
  | unreadable (date : String)

namespace Defect

/-- The field that is not as it should be. -/
def field : Defect → Needed
  | missing field => field
  | outside _ => .probability
  | unreadable _ => .scanDate

/-- How a defect is told: by the name of its field. -/
def reason (defect : Defect) : String :=
  match defect with
  | missing field => "missing " ++ field.name
  | outside probability =>
    defect.field.name ++ " " ++ probability.render .message ++ " is outside [0, 1]"
  | unreadable date => "unparseable " ++ defect.field.name ++ " \"" ++ date ++ "\""

end Defect

/-- A response has a defect. -/
def Has (r : Response) : Defect → Prop
  | .missing .filename => r.filename = none
  | .missing .isMalicious => r.isMalicious = none
  | .missing .probability => r.probability = none
  | .missing .scanDate => r.scanDate = none
  | .outside p => r.probability = some p ∧ ¬p.IsProbability
  | .unreadable text => r.scanDate = some text ∧ Calendar.readScanDate text = none

/-- The defect of the first field that has one. -/
structure First (r : Response) (defect : Defect) : Prop where
  has : r.Has defect
  least : ∀ other, r.Has other → defect.field.place ≤ other.field.place

/-- All that a result needs is there and as it should be. -/
structure Complete (r : Response) : Prop where
  filename : ∃ filename, r.filename = some filename
  isMalicious : ∃ isMalicious, r.isMalicious = some isMalicious
  probability : ∃ p, r.probability = some p ∧ p.IsProbability
  scanDate : ∃ text date, r.scanDate = some text ∧ Calendar.readScanDate text = some date

/-- A response holds a result for the scan that was asked for. -/
structure Makes (r : Response) (scanId : String) (result : ScanResult) : Prop where
  filename : r.filename = some result.filename
  isMalicious : r.isMalicious = some result.isMalicious
  probability : r.probability = some result.probability
  probable : result.probability.IsProbability
  scanDate : ∃ text, r.scanDate = some text ∧ Calendar.readScanDate text = some result.scanDate
  /-- The identifier of the response is taken unless there is none, or nothing in it. -/
  id : result.id ≠ "" ∧ r.id = some result.id ∨ (r.id = none ∨ r.id = some "") ∧ result.id = scanId
  status : result.status = .completed

/-! ## One field after another -/

theorem need_some {α : Type} (name : String) (a : α) : need name (some a) = .ok a := rfl

theorem checkProbability_of {p : Double} (h : p.IsProbability) : checkProbability p = .ok p :=
  if_pos (Double.isProbability_iff.mp h)

theorem checkProbability_outside {p : Double} (h : ¬p.IsProbability) :
    checkProbability p = .error (.incompleteResult (Defect.outside p).reason) := by
  rw [checkProbability, if_neg fun hp => h (Double.isProbability_iff.mpr hp)]
  rfl

theorem checkDate_of {text : String} {date : Calendar.Instant}
    (h : Calendar.readScanDate text = some date) : checkDate text = .ok date := by
  rw [checkDate, h]

theorem checkDate_unreadable {text : String} (h : Calendar.readScanDate text = none) :
    checkDate text = .error (.incompleteResult (Defect.unreadable text).reason) := by
  rw [checkDate, h]
  rfl

/-- The identifier that a result has. -/
theorem id_getD {given : Option String} {id scanId : String} :
    id = (given.filter fun id => !id.isEmpty).getD scanId ↔
      id ≠ "" ∧ given = some id ∨ (given = none ∨ given = some "") ∧ id = scanId := by
  cases given with
  | none => simp
  | some text =>
    by_cases hempty : text = ""
    · subst hempty
      have hnone : (some "").filter (fun id : String => !id.isEmpty) = none := rfl
      rw [hnone]
      simp
    · have hkept : (some text).filter (fun id => !id.isEmpty) = some text := by
        simp [hempty]
      rw [hkept, Option.getD_some]
      simp only [Option.some.injEq, reduceCtorEq, hempty, or_self, false_and, or_false]
      constructor
      · rintro rfl
        exact ⟨hempty, rfl⟩
      · rintro ⟨_, rfl⟩
        rfl

variable {r : Response} {scanId : String}

theorem toResult_of_makes {result : ScanResult} (makes : r.Makes scanId result) :
    r.toResult scanId = .ok result := by
  obtain ⟨text, hdate, hread⟩ := makes.scanDate
  simp only [toResult, makes.filename, makes.isMalicious, makes.probability, hdate, need_some,
    bind, Except.bind, checkProbability_of makes.probable, checkDate_of hread, pure, Except.pure]
  rw [← id_getD.mpr makes.id, ← makes.status]

namespace First

variable {defect : Defect}

/-- No field before the first defective one has a defect. -/
theorem not_has (first : r.First defect) (other : Defect)
    (h : other.field.place < defect.field.place) : ¬r.Has other := by
  intro has
  have := first.least other has
  omega

theorem filename (first : r.First defect) (h : 0 < defect.field.place) :
    ∃ filename, r.filename = some filename :=
  Option.ne_none_iff_exists'.mp (first.not_has (.missing .filename) h)

theorem isMalicious (first : r.First defect) (h : 1 < defect.field.place) :
    ∃ isMalicious, r.isMalicious = some isMalicious :=
  Option.ne_none_iff_exists'.mp (first.not_has (.missing .isMalicious) h)

theorem probability (first : r.First defect) (h : 2 < defect.field.place) :
    ∃ p, r.probability = some p ∧ p.IsProbability := by
  obtain ⟨p, hp⟩ :=
    Option.ne_none_iff_exists'.mp (first.not_has (.missing .probability) h)
  refine ⟨p, hp, ?_⟩
  by_contra houtside
  exact first.not_has (.outside p) h ⟨hp, houtside⟩

end First

theorem toResult_of_first {defect : Defect} (first : r.First defect) :
    r.toResult scanId = .error (.incompleteResult defect.reason) := by
  have has := first.has
  cases defect with
  | missing field =>
    cases field with
    | filename =>
      rw [toResult, show r.filename = none from has]
      rfl
    | isMalicious =>
      obtain ⟨filename, hfilename⟩ := first.filename (by decide)
      rw [toResult, hfilename, show r.isMalicious = none from has]
      rfl
    | probability =>
      obtain ⟨filename, hfilename⟩ := first.filename (by decide)
      obtain ⟨isMalicious, hmalicious⟩ := first.isMalicious (by decide)
      rw [toResult, hfilename, hmalicious, show r.probability = none from has]
      rfl
    | scanDate =>
      obtain ⟨filename, hfilename⟩ := first.filename (by decide)
      obtain ⟨isMalicious, hmalicious⟩ := first.isMalicious (by decide)
      obtain ⟨p, hp, hprobable⟩ := first.probability (by decide)
      simp only [toResult, hfilename, hmalicious, hp, need_some, bind, Except.bind,
        checkProbability_of hprobable, show r.scanDate = none from has]
      rfl
  | outside p =>
    obtain ⟨hp, houtside⟩ := has
    obtain ⟨filename, hfilename⟩ := first.filename (by decide : 0 < 2)
    obtain ⟨isMalicious, hmalicious⟩ := first.isMalicious (by decide : 1 < 2)
    simp only [toResult, hfilename, hmalicious, hp, need_some, bind, Except.bind,
      checkProbability_outside houtside]
  | unreadable text =>
    obtain ⟨htext, hread⟩ := has
    obtain ⟨filename, hfilename⟩ := first.filename (by decide : 0 < 3)
    obtain ⟨isMalicious, hmalicious⟩ := first.isMalicious (by decide : 1 < 3)
    obtain ⟨p, hp, hprobable⟩ := first.probability (by decide : 2 < 3)
    simp only [toResult, hfilename, hmalicious, hp, htext, need_some, bind, Except.bind,
      checkProbability_of hprobable, checkDate_unreadable hread]

/-- Where there is a defect, one of them is the first. -/
theorem exists_first {defect : Defect} (has : r.Has defect) : ∃ first, r.First first := by
  obtain ⟨first, hfirst, hleast⟩ :=
    (measure fun defect : Defect => defect.field.place).wf.has_min {defect | r.Has defect}
      ⟨defect, has⟩
  exact ⟨first, hfirst, fun other hother => Nat.le_of_not_lt (hleast other hother)⟩

theorem complete_of_sound (h : ∀ defect, ¬r.Has defect) : r.Complete where
  filename := Option.ne_none_iff_exists'.mp (h (.missing .filename))
  isMalicious := Option.ne_none_iff_exists'.mp (h (.missing .isMalicious))
  probability := by
    obtain ⟨p, hp⟩ := Option.ne_none_iff_exists'.mp (h (.missing .probability))
    refine ⟨p, hp, ?_⟩
    by_contra houtside
    exact h (.outside p) ⟨hp, houtside⟩
  scanDate := by
    obtain ⟨text, htext⟩ := Option.ne_none_iff_exists'.mp (h (.missing .scanDate))
    obtain ⟨date, hdate⟩ :=
      Option.ne_none_iff_exists'.mp fun hnone => h (.unreadable text) ⟨htext, hnone⟩
    exact ⟨text, date, htext, hdate⟩

theorem Complete.exists_makes (complete : r.Complete) (scanId : String) :
    ∃ result, r.Makes scanId result := by
  obtain ⟨filename, hfilename⟩ := complete.filename
  obtain ⟨isMalicious, hmalicious⟩ := complete.isMalicious
  obtain ⟨p, hp, hprobable⟩ := complete.probability
  obtain ⟨text, date, hdate⟩ := complete.scanDate
  let id := (r.id.filter fun id => !id.isEmpty).getD scanId
  exact ⟨⟨id, filename, isMalicious, p, date, .completed⟩, hfilename, hmalicious, hp, hprobable,
    ⟨text, hdate⟩, id_getD.mp rfl, rfl⟩

theorem Makes.complete {result : ScanResult} (makes : r.Makes scanId result) : r.Complete where
  filename := ⟨_, makes.filename⟩
  isMalicious := ⟨_, makes.isMalicious⟩
  probability := ⟨_, makes.probability, makes.probable⟩
  scanDate := by
    obtain ⟨text, hdate⟩ := makes.scanDate
    exact ⟨text, _, hdate⟩

/-- Either there is a result or there is a first defect. -/
theorem makes_or_first (r : Response) (scanId : String) :
    (∃ result, r.Makes scanId result) ∨ ∃ defect, r.First defect := by
  by_cases h : ∃ defect, r.Has defect
  · obtain ⟨defect, has⟩ := h
    exact .inr (exists_first has)
  · exact .inl ((complete_of_sound (not_exists.mp h)).exists_makes scanId)

/-! ## The main result -/

theorem toResult_eq_ok_iff {result : ScanResult} :
    r.toResult scanId = .ok result ↔ r.Makes scanId result := by
  refine ⟨fun h => ?_, toResult_of_makes⟩
  rcases r.makes_or_first scanId with ⟨made, makes⟩ | ⟨defect, first⟩
  · rw [toResult_of_makes makes] at h
    cases h
    exact makes
  · rw [toResult_of_first first] at h
    cases h

theorem toResult_eq_error_iff {e : ScanError} :
    r.toResult scanId = .error e ↔
      ∃ defect, r.First defect ∧ e = .incompleteResult defect.reason := by
  constructor
  · intro h
    rcases r.makes_or_first scanId with ⟨made, makes⟩ | ⟨defect, first⟩
    · rw [toResult_of_makes makes] at h
      cases h
    · rw [toResult_of_first first] at h
      exact ⟨defect, first, (Except.error.inj h).symm⟩
  · rintro ⟨defect, first, rfl⟩
    exact toResult_of_first first

/-- Whatever a response says of its status and of errors, and whatever scan was asked for: it holds a
result if the four fields are there, the probability is a number between 0 and 1 and the date can be
read. The result has these very fields, is completed, and has no identifier only if the scan that was
asked for has none. In all other cases the protocol has not been kept, and the error tells of the
first field that is not as it should be. -/
theorem results_are_complete (r : Response) (scanId : String) :
    ((∃ result, r.toResult scanId = .ok result) ↔ r.Complete) ∧
    (∀ result, r.toResult scanId = .ok result ↔ r.Makes scanId result) ∧
    (∀ result, r.toResult scanId = .ok result → result.id = "" → scanId = "") ∧
    ∀ e, (r.toResult scanId = .error e ↔
        ∃ defect, r.First defect ∧ e = .incompleteResult defect.reason) ∧
      (r.toResult scanId = .error e → e.kind = .protocol) := by
  refine ⟨⟨?_, ?_⟩, fun _ => toResult_eq_ok_iff, ?_, fun e => ⟨toResult_eq_error_iff, ?_⟩⟩
  · rintro ⟨result, h⟩
    exact (toResult_eq_ok_iff.mp h).complete
  · intro complete
    obtain ⟨result, makes⟩ := complete.exists_makes scanId
    exact ⟨result, toResult_of_makes makes⟩
  · intro result h hempty
    rcases (toResult_eq_ok_iff.mp h).id with ⟨hne, _⟩ | ⟨_, hid⟩
    · exact absurd hempty hne
    · exact hid.symm.trans hempty
  · intro h
    obtain ⟨defect, _, rfl⟩ := toResult_eq_error_iff.mp h
    rfl

end Response

end ScanClient
