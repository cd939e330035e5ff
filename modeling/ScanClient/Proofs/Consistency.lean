import ScanClient.Proofs.Except
import ScanClient.Proofs.Life

/-!
# Consistency of attempts

What the fields of an attempt say of each other, in every value of it that is ever published. The
steps of a submission change a few fields each and rely on what the steps before have left there; so
each step is shown to lead from a consistent attempt to consistent ones, from where the submission
stands.
-/

namespace ScanClient

namespace Attempt

/-- Nothing has come of the attempt yet. -/
structure Untouched (a : Attempt) : Prop where
  scanId : a.scanId = none
  error : a.error = none
  result : a.result = none
  attemptCount : a.attemptCount = 0

/-- What the fields of an attempt say of each other. -/
structure Consistent (policy : PollPolicy) (a : Attempt) : Prop where
  result_iff : a.result.isSome ↔ a.phase = .completed
  error_iff : a.error.isSome ↔ a.phase = .failed
  scanId_of_phase : a.phase = .polling ∨ a.phase = .completed → a.scanId.isSome
  phase_of_scanId :
    a.scanId.isSome → a.phase = .polling ∨ a.phase = .completed ∨ a.phase = .failed
  scanId_visible : ∀ scanId, a.scanId = some scanId → ∃ c ∈ scanId.toList, Text.isBlank c = false
  file_of_scanId : a.scanId.isSome → a.file.isSome
  scanId_of_count : 0 < a.attemptCount → a.scanId.isSome
  count_of_completed : a.phase = .completed → 1 ≤ a.attemptCount
  without_file : a.file = none → a.phase = .idle ∧ a.Untouched
  with_file :
    a.file.isSome → a.phase = .idle ∨ a.phase = .validating ∨ a.phase = .uploading → a.Untouched
  result_valid : ∀ result, a.result = some result →
    result.status = .completed ∧ Double.zero.le result.probability ∧ result.probability.le .one
  maxAttempts_eq : a.maxAttempts = policy.maxAttempts

variable {policy : PollPolicy} {a : Attempt}

/-- Before an upload has been accepted there is nothing yet that could be inconsistent. -/
theorem Untouched.consistent (untouched : a.Untouched)
    (phase : a.phase = .idle ∨ a.file.isSome ∧ (a.phase = .validating ∨ a.phase = .uploading))
    (maxAttempts : a.maxAttempts = policy.maxAttempts) : a.Consistent policy := by
  -- the phase is none of those that the fields speak of
  have hearly : a.phase = .idle ∨ a.phase = .validating ∨ a.phase = .uploading :=
    phase.imp_right And.right
  have hphase : a.phase ≠ .polling ∧ a.phase ≠ .completed ∧ a.phase ≠ .failed := by
    rcases hearly with h | h | h <;> rw [h] <;> decide
  have hscanId : ¬a.scanId.isSome := by
    rw [untouched.scanId]
    decide
  refine
    { result_iff := ?_
      error_iff := ?_
      scanId_of_phase := fun h => (h.elim hphase.1 hphase.2.1).elim
      phase_of_scanId := fun h => absurd h hscanId
      scanId_visible := fun scanId h => ?_
      file_of_scanId := fun h => absurd h hscanId
      scanId_of_count := fun h => ?_
      count_of_completed := fun h => absurd h hphase.2.1
      without_file := fun h => ⟨?_, untouched⟩
      with_file := fun _ _ => untouched
      result_valid := fun result h => ?_
      maxAttempts_eq := maxAttempts }
  · rw [untouched.result]
    exact ⟨fun h => (nomatch h), fun h => absurd h hphase.2.1⟩
  · rw [untouched.error]
    exact ⟨fun h => (nomatch h), fun h => absurd h hphase.2.2⟩
  · rw [untouched.scanId] at h
    cases h
  · rw [untouched.attemptCount] at h
    exact absurd h (Nat.lt_irrefl 0)
  · rcases phase with hidle | ⟨hfile, _⟩
    · exact hidle
    · rw [h] at hfile
      cases hfile
  · rw [untouched.result] at h
    cases h

/-- An attempt stays consistent when it fails, unless there is no file it could fail for. -/
theorem Consistent.fail (consistent : a.Consistent policy) (hfile : a.file.isSome)
    (failure : Failure) : (a.fail failure).Consistent policy where
  result_iff := ⟨fun h => (nomatch h), fun h => (nomatch h)⟩
  error_iff := ⟨fun _ => rfl, fun _ => rfl⟩
  scanId_of_phase h := h.elim (fun h => (nomatch h)) (fun h => (nomatch h))
  phase_of_scanId _ := .inr (.inr rfl)
  scanId_visible := consistent.scanId_visible
  file_of_scanId _ := hfile
  scanId_of_count := consistent.scanId_of_count
  count_of_completed h := nomatch h
  without_file h := by
    rw [show a.file = none from h] at hfile
    cases hfile
  with_file _ h := by rcases h with h | h | h <;> cases h
  result_valid _ h := nomatch h
  maxAttempts_eq := consistent.maxAttempts_eq

/-- An attempt stays consistent when a result comes while it is polled for. -/
theorem Consistent.complete (consistent : a.Consistent policy) (hphase : a.phase = .polling)
    (hcount : 1 ≤ a.attemptCount) {result : ScanResult}
    (hresult : result.status = .completed ∧ Double.zero.le result.probability ∧
      result.probability.le .one) : (a.complete result).Consistent policy where
  result_iff := ⟨fun _ => rfl, fun _ => rfl⟩
  error_iff := ⟨fun h => (nomatch h), fun h => (nomatch h)⟩
  scanId_of_phase _ := consistent.scanId_of_phase (.inl hphase)
  phase_of_scanId _ := .inr (.inl rfl)
  scanId_visible := consistent.scanId_visible
  file_of_scanId := consistent.file_of_scanId
  scanId_of_count := consistent.scanId_of_count
  count_of_completed _ := hcount
  without_file h := by
    have hidle := (consistent.without_file h).1
    rw [hphase] at hidle
    cases hidle
  with_file _ h := by rcases h with h | h | h <;> cases h
  result_valid given h := by
    cases h
    exact hresult
  maxAttempts_eq := consistent.maxAttempts_eq

end Attempt

/-! ## Results -/

/-- A result that a response holds is one of a completed scan, with a probability. -/
theorem Response.toResult_ok {response : Response} {scanId : String} {result : ScanResult}
    (h : response.toResult scanId = .ok result) :
    result.status = .completed ∧ Double.zero.le result.probability ∧
      result.probability.le .one := by
  unfold toResult at h
  obtain ⟨filename, _, h⟩ := bind_eq_ok.mp h
  obtain ⟨isMalicious, _, h⟩ := bind_eq_ok.mp h
  obtain ⟨probability, hprobability, h⟩ := bind_eq_ok.mp h
  obtain ⟨scanDate, _, h⟩ := bind_eq_ok.mp h
  obtain ⟨given, _, hprobability⟩ := bind_eq_ok.mp hprobability
  cases h
  unfold checkProbability at hprobability
  split at hprobability
  next hbounds =>
    cases hprobability
    exact ⟨rfl, hbounds⟩
  next => cases hprobability

/-! ## What submissions publish -/

section Steps

variable {rules : Rules} {file : ScanFile} {generation : UInt64}

theorem Rules.consistent_begun (rules : Rules) (file : ScanFile) (generation : UInt64) :
    (rules.begun file generation).Consistent rules.policy :=
  Attempt.Untouched.consistent ⟨rfl, rfl, rfl, rfl⟩ (.inr ⟨rfl, .inl rfl⟩) rfl

theorem Rules.consistent_uploading (rules : Rules) (file : ScanFile) (generation : UInt64) :
    { rules.begun file generation with phase := .uploading : Attempt }.Consistent rules.policy :=
  Attempt.Untouched.consistent ⟨rfl, rfl, rfl, rfl⟩ (.inr ⟨rfl, .inr rfl⟩) rfl

theorem Rules.consistent_polling (rules : Rules) (file : ScanFile) (generation : UInt64)
    {scanId : String} (hvisible : Text.isBlankText scanId = false) (number : Nat) :
    { rules.begun file generation with
      phase := .polling, scanId := some scanId, attemptCount := number : Attempt }.Consistent
        rules.policy where
  result_iff := ⟨fun h => (nomatch h), fun h => (nomatch h)⟩
  error_iff := ⟨fun h => (nomatch h), fun h => (nomatch h)⟩
  scanId_of_phase _ := rfl
  phase_of_scanId _ := .inl rfl
  scanId_visible given h := by
    cases h
    exact Text.exists_of_isBlankText hvisible
  file_of_scanId _ := rfl
  scanId_of_count _ := rfl
  count_of_completed h := nomatch h
  without_file h := nomatch h
  with_file _ h := by rcases h with h | h | h <;> cases h
  result_valid _ h := nomatch h
  maxAttempts_eq := rfl

/-- A submission that waits has left a consistent attempt. -/
theorem Standing.consistent_left {task : Task} {left : Attempt}
    (standing : Standing rules file generation task left) :
    left.Consistent rules.policy ∧ left.file.isSome := by
  have hfits := standing.fits
  rw [standing.left_eq]
  cases hstage : task.stage with
  | reading selected => exact ⟨rules.consistent_begun file generation, rfl⟩
  | uploading contents => exact ⟨rules.consistent_uploading file generation, rfl⟩
  | polling scanId number =>
    rw [hstage] at hfits
    exact ⟨rules.consistent_polling file generation hfits.1 number, rfl⟩
  | waiting scanId number =>
    rw [hstage] at hfits
    exact ⟨rules.consistent_polling file generation hfits.1 number, rfl⟩

/-- And so has every step before it published consistent ones. -/
theorem Standing.consistent_published {task : Task} {left : Attempt}
    (standing : Standing rules file generation task left) {given : task.stage.Answer} {move : Move}
    (h : Advance rules task left task.stage given move) :
    ∀ a ∈ publications move.effects, a.Consistent rules.policy := by
  obtain ⟨consistent, hfile⟩ := standing.consistent_left
  obtain ⟨taskGeneration, filename, stage⟩ := task
  obtain ⟨_, _, _, hleft, hfits⟩ := standing
  intro a ha
  cases h with
  | fails h =>
    rw [List.mem_singleton.mp ha]
    exact consistent.fail hfile _
  | uploads selected contents =>
    rw [List.mem_singleton.mp ha, hleft]
    exact rules.consistent_uploading file generation
  | accepted contents h =>
    -- two values are published: the scan that was accepted, and then its first poll
    have hvisible := (Receipt.usableId_eq_some h).2
    rcases List.mem_cons.mp ha with rfl | ha
    · rw [hleft]
      exact rules.consistent_polling file generation hvisible 0
    · rw [List.mem_singleton.mp ha, hleft]
      exact rules.consistent_polling file generation hvisible 1
  | pauses scanId h room => cases ha
  | polls scanId room =>
    rw [List.mem_singleton.mp ha, hleft]
    exact rules.consistent_polling file generation hfits.1 _
  | completes number status h =>
    rw [List.mem_singleton.mp ha]
    refine consistent.complete ?_ ?_ (Response.toResult_ok h)
    · rw [hleft]
      rfl
    · rw [hleft]
      exact hfits.2.1

theorem Opening.consistent_published {move : Move} (h : Opening rules file generation move) :
    ∀ a ∈ publications move.effects, a.Consistent rules.policy := by
  have hbegun := rules.consistent_begun file generation
  intro a ha
  cases h with
  | rejected h =>
    rcases List.mem_cons.mp ha with rfl | ha
    · exact hbegun
    · rw [List.mem_singleton.mp ha]
      exact hbegun.fail rfl _
  | inMemory checked h advance =>
    rcases List.mem_cons.mp ha with rfl | ha
    · exact hbegun
    · exact (rules.standing_begun generation checked).consistent_published advance a ha
  | onDisk checked h =>
    rw [List.mem_singleton.mp ha]
    exact hbegun

end Steps

/-! ## The main result -/

theorem Shown.consistent {rules : Rules} {a : Attempt} (h : Shown rules a) :
    a.Consistent rules.policy := by
  cases h with
  | fresh generation => exact Attempt.Untouched.consistent ⟨rfl, rfl, rfl, rfl⟩ (.inl rfl) rfl
  | begun file generation => exact rules.consistent_begun file generation
  | selected file generation =>
    exact Attempt.Untouched.consistent ⟨rfl, rfl, rfl, rfl⟩ (.inl rfl) rfl
  | rejected file generation rejection =>
    exact (rules.consistent_begun file generation).fail rfl _
  | @turn sub turn a h hturn ha =>
    refine h.turns (P := fun turn => ∀ a ∈ publications turn.move.effects,
      a.Consistent rules.policy) ?_ ?_ turn hturn a ha
    · intro move opening
      exact opening.consistent_published
    · intro task left given answer move standing _ advance
      exact standing.consistent_published advance

/-- Whatever happens in whatever order, as long as the attempt has been renewed fewer than `2 ^ 64`
times, every value of it that has been published is consistent. -/
theorem published_consistent (rules : Rules) {acts : List Act} {s : Session}
    (hrun : (Session.start rules).run? rules acts = some s)
    (few : acts.countP Act.renews < UInt64.size) :
    ∀ a ∈ s.published, a.Consistent rules.policy := by
  intro a ha
  exact ((Session.kept_of_run? hrun few).published a ha).consistent

/-- It is so of a scan that completes. -/
theorem sampleScan_consistent :
    ∃ s, (Session.start .standard).run? .standard Session.sampleScan = some s ∧
      Session.sampleScan.countP Act.renews < UInt64.size ∧ s.attempt.phase = .completed ∧
      ∀ a ∈ s.published, a.Consistent Rules.standard.policy := by
  have hphase : ((Session.start .standard).run? .standard Session.sampleScan).map
      (·.attempt.phase) = some .completed := by
    decide +kernel
  obtain ⟨s, hrun, hphase⟩ := Option.map_eq_some_iff.mp hphase
  exact ⟨s, hrun, by decide, hphase, published_consistent .standard hrun (by decide)⟩

end ScanClient
