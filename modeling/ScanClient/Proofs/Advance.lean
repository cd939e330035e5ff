import ScanClient.Proofs.Session

/-!
# What a step can be

A step of a submission depends on the attempt only by whether it is still the one the submission
began. If it is not, the step changes nothing and is the last. If it is, the step is one of six:
the submission fails, uploads, is accepted and polls for the first time, pauses, polls again, or
completes. Whatever is said of submissions later is said of these steps.
-/

namespace ScanClient

open Log

/-! ## What others see of a step -/

@[simp] theorem publications_nil : publications [] = [] := rfl

@[simp] theorem publications_publish (a : Attempt) (effects : List Effect) :
    publications (.publish a :: effects) = a :: publications effects := rfl

@[simp] theorem publications_log (event : Event) (effects : List Effect) :
    publications (.log event :: effects) = publications effects := rfl

theorem publications_append (effects more : List Effect) :
    publications (effects ++ more) = publications effects ++ publications more :=
  List.filterMap_append

theorem publications_logs (events : List Event) : publications (events.map .log) = [] := by
  induction events with
  | nil => rfl
  | cons event events ih => exact ih

/-! ## Steps of a submission whose attempt is gone -/

/-- What a submission whose attempt is gone logs when an answer comes. -/
def Stage.farewell (generation : UInt64) (filename : String) :
    (stage : Stage) → stage.Answer → List Event
  | .reading _, .ok _ => [.supersededBeforeUpload generation filename]
  | .reading _, .error _ => []
  | .uploading _, _ => [.uploadDiscarded generation filename]
  | .polling scanId _, _ => [.pollDiscarded generation scanId]
  | .waiting _ _, _ => []

/-- A submission whose attempt is gone changes nothing, and returns the attempt that is there. -/
theorem Task.resume_eq_farewell (rules : Rules) (task : Task) (answer : task.stage.Answer)
    (a : Attempt) (h : a.generation ≠ task.generation) :
    task.resume rules answer a =
      .final a ((task.stage.farewell task.generation task.filename answer).map .log) := by
  obtain ⟨generation, filename, stage⟩ := task
  -- a failure and a poll check the generation themselves, at whatever stage they come
  have hfail : ∀ (stage : Stage) (e : ScanError),
      Task.fail ⟨generation, filename, stage⟩ e a = .final a [] := by
    intro stage e
    simp only [Task.fail, failAttempt]
    rw [if_neg h]
  have hpoll : ∀ (stage : Stage) (scanId : String) (number : Nat),
      Task.pollAgain rules ⟨generation, filename, stage⟩ scanId number a = .final a [] := by
    intro stage scanId number
    simp only [Task.pollAgain, Task.poll]
    split
    · rfl
    · exact hfail stage _
  cases stage with
  | reading file =>
    cases answer with
    | error e => exact hfail _ e
    | ok contents => exact if_neg h
  | uploading contents => exact if_pos h
  | polling scanId number => exact if_pos h
  | waiting scanId number => exact hpoll _ scanId number

theorem Task.resume_superseded (rules : Rules) (task : Task) (answer : task.stage.Answer)
    (a : Attempt) (h : a.generation ≠ task.generation) :
    ∃ events : List Event, task.resume rules answer a = .final a (events.map .log) :=
  ⟨_, task.resume_eq_farewell rules answer a h⟩

/-! ## Steps of a submission whose attempt is there -/

/-- The error that an answer ends a submission with. -/
def Stage.failure? (rules : Rules) : (stage : Stage) → stage.Answer → Option ScanError
  | .reading _, .error e => some e
  | .reading _, .ok _ => none
  | .uploading _, .error e => some e
  | .uploading _, .ok receipt => if receipt.usableId.isNone then some .missingScanId else none
  | .polling _ _, .error e => some e
  | .polling scanId number, .ok response =>
    match response.status with
    | .completed =>
      match response.toResult scanId with
      | .error e => some e
      | .ok _ => none
    | .failed => some (.serviceReported response.failureText)
    | .pending | .unknown =>
      if number < rules.policy.budget then none else some (.timeout rules.policy.budget)
  | .waiting _ number, _ =>
    if number < rules.policy.budget then none else some (.timeout rules.policy.budget)

namespace Move

/-- The attempt ends in failure. -/
def fails (generation : UInt64) (e : ScanError) (a : Attempt) : Move :=
  .final (a.fail e.recorded)
    [.publish (a.fail e.recorded), .log (.attemptFailed generation e.recorded)]

/-- The upload of contents begins. -/
def uploads (task : Task) (contents : Blob) (a : Attempt) : Move :=
  ⟨{ a with phase := .uploading }, [.publish { a with phase := .uploading }],
    .waits { task with stage := .uploading contents }⟩

/-- A poll begins. -/
def polls (rules : Rules) (task : Task) (scanId : String) (number : Nat) (a : Attempt) : Move :=
  ⟨{ a with attemptCount := number },
    [.publish { a with attemptCount := number },
      .log (.polling scanId number rules.policy.budget)],
    .waits { task with stage := .polling scanId number }⟩

/-- The upload was accepted as a scan, and the first poll begins. -/
def accepted (rules : Rules) (task : Task) (scanId : String) (a : Attempt) : Move :=
  (polls rules task scanId 1 { a with scanId := some scanId, phase := .polling }).after
    [.log (.uploadAccepted task.generation scanId),
      .publish { a with scanId := some scanId, phase := .polling }]

/-- The wait for the next poll begins. -/
def pauses (task : Task) (scanId : String) (number : Nat) (a : Attempt) : Move :=
  ⟨a, [], .waits { task with stage := .waiting scanId number }⟩

/-- The attempt ends with a result. -/
def completes (scanId : String) (result : ScanResult) (a : Attempt) : Move :=
  .final (a.complete result)
    [.log (.scanCompleted scanId result.isMalicious result.probability),
      .publish (a.complete result)]

end Move

/-- The steps of a submission whose attempt is there, by what it waited for and what came. -/
inductive Advance (rules : Rules) (task : Task) (a : Attempt) :
    (stage : Stage) → stage.Answer → Move → Prop where
  | fails {stage : Stage} {answer : stage.Answer} {e : ScanError}
      (h : stage.failure? rules answer = some e) :
      Advance rules task a stage answer (.fails task.generation e a)
  | uploads (file : ScanFile) (contents : Blob) :
      Advance rules task a (.reading file) (.ok contents) (.uploads task contents a)
  | accepted (contents : Blob) {receipt : Receipt} {scanId : String}
      (h : receipt.usableId = some scanId) :
      Advance rules task a (.uploading contents) (.ok receipt) (.accepted rules task scanId a)
  | pauses (scanId : String) {number : Nat} {response : Response}
      (h : response.status = .pending ∨ response.status = .unknown)
      (room : number < rules.policy.budget) :
      Advance rules task a (.polling scanId number) (.ok response) (.pauses task scanId number a)
  | polls (scanId : String) {number : Nat} (room : number < rules.policy.budget) :
      Advance rules task a (.waiting scanId number) () (.polls rules task scanId (number + 1) a)
  | completes {scanId : String} (number : Nat) {response : Response} {result : ScanResult}
      (status : response.status = .completed) (h : response.toResult scanId = .ok result) :
      Advance rules task a (.polling scanId number) (.ok response) (.completes scanId result a)

theorem failAttempt_current {generation : UInt64} {a : Attempt} (h : a.generation = generation)
    (e : ScanError) :
    failAttempt generation e a =
      ((Move.fails generation e a).attempt, (Move.fails generation e a).effects) :=
  if_pos h

theorem Task.fail_current {task : Task} {a : Attempt} (h : a.generation = task.generation)
    (e : ScanError) : task.fail e a = .fails task.generation e a := by
  unfold Task.fail
  rw [failAttempt_current h]
  rfl

theorem Task.poll_current (rules : Rules) {task : Task} {a : Attempt}
    (h : a.generation = task.generation) (scanId : String) (number : Nat) :
    task.poll rules scanId number a = .polls rules task scanId number a := by
  simp only [Task.poll]
  rw [if_pos h]
  rfl

theorem Task.advance_afterRead (rules : Rules) {task : Task} (file : ScanFile)
    (answer : Except ScanError Blob) {a : Attempt} (h : a.generation = task.generation) :
    Advance rules task a (.reading file) answer (task.afterRead answer a) := by
  cases answer with
  | error e =>
    simp only [Task.afterRead]
    rw [Task.fail_current h]
    exact .fails rfl
  | ok contents =>
    simp only [Task.afterRead]
    rw [if_pos h]
    exact .uploads file contents

theorem Task.advance_afterUpload (rules : Rules) {task : Task} (contents : Blob)
    (answer : Except ScanError Receipt) {a : Attempt} (h : a.generation = task.generation) :
    Advance rules task a (.uploading contents) answer (task.afterUpload rules answer a) := by
  simp only [Task.afterUpload]
  rw [if_neg (not_not_intro h)]
  cases answer with
  | error e =>
    simp only
    rw [Task.fail_current h]
    exact .fails rfl
  | ok receipt =>
    cases hid : receipt.usableId with
    | none =>
      simp only [hid]
      rw [Task.fail_current h]
      exact .fails (by simp only [Stage.failure?, hid, Option.isNone_none, if_true])
    | some scanId =>
      simp only [hid]
      rw [Task.poll_current rules (a := { a with scanId := some scanId, phase := .polling }) h]
      exact .accepted contents hid

theorem Task.advance_pollAgain (rules : Rules) {task : Task} (scanId : String) (number : Nat)
    {a : Attempt} (h : a.generation = task.generation) :
    Advance rules task a (.waiting scanId number) () (task.pollAgain rules scanId number a) := by
  unfold Task.pollAgain
  split
  next room =>
    rw [Task.poll_current rules h]
    exact .polls scanId room
  next full =>
    rw [Task.fail_current h]
    exact .fails (if_neg full)

theorem Task.advance_afterPoll (rules : Rules) {task : Task} (scanId : String) (number : Nat)
    (answer : Except ScanError Response) {a : Attempt} (h : a.generation = task.generation) :
    Advance rules task a (.polling scanId number) answer
      (task.afterPoll rules scanId number answer a) := by
  simp only [Task.afterPoll]
  rw [if_neg (not_not_intro h)]
  cases answer with
  | error e =>
    simp only
    rw [Task.fail_current h]
    exact .fails rfl
  | ok response =>
    -- an unknown status counts as pending, so both go the same way
    have hundecided : response.status = .pending ∨ response.status = .unknown →
        Advance rules task a (.polling scanId number) (.ok response)
          (if number < rules.policy.budget then .pauses task scanId number a
          else task.pollAgain rules scanId number a) := by
      intro hstatus
      split
      next room => exact .pauses scanId hstatus room
      next full =>
        unfold Task.pollAgain
        rw [if_neg full, Task.fail_current h]
        refine .fails ?_
        rcases hstatus with hstatus | hstatus <;>
          simp only [Stage.failure?, hstatus, if_neg full]
    cases hstatus : response.status with
    | completed =>
      cases hresult : response.toResult scanId with
      | error e =>
        simp only [hstatus, hresult]
        rw [Task.fail_current h]
        exact .fails (by simp only [Stage.failure?, hstatus, hresult])
      | ok result =>
        simp only [hstatus, hresult]
        exact .completes number hstatus hresult
    | failed =>
      simp only [hstatus]
      rw [Task.fail_current h]
      exact .fails (by simp only [Stage.failure?, hstatus])
    | pending =>
      simp only [hstatus]
      exact hundecided (.inl hstatus)
    | unknown =>
      simp only [hstatus]
      exact hundecided (.inr hstatus)

/-- A submission whose attempt is there takes one of the six steps. -/
theorem Task.advance_resume (rules : Rules) (task : Task) (answer : task.stage.Answer)
    {a : Attempt} (h : a.generation = task.generation) :
    Advance rules task a task.stage answer (task.resume rules answer a) := by
  obtain ⟨generation, filename, stage⟩ := task
  cases stage with
  | reading file => exact advance_afterRead rules file answer h
  | uploading contents => exact advance_afterUpload rules contents answer h
  | polling scanId number => exact advance_afterPoll rules scanId number answer h
  | waiting scanId number => exact advance_pollAgain rules scanId number h

/-- No step leads to a read, so nothing has come for a submission that waits for one. -/
theorem Advance.not_reading {rules : Rules} {task next : Task} {a : Attempt} {stage : Stage}
    {given : stage.Answer} {move : Move} (h : Advance rules task a stage given move)
    (hnext : move.outcome = .waits next) (file : ScanFile) : next.stage ≠ .reading file := by
  cases h with
  | fails h => cases hnext
  | completes number status h => cases hnext
  | uploads selected contents => cases hnext; exact nofun
  | accepted contents h => cases hnext; exact nofun
  | pauses scanId h room => cases hnext; exact nofun
  | polls scanId room => cases hnext; exact nofun

/-! ## First steps -/

/-- The attempt a submission or a validation of a file begins. -/
def Rules.begun (rules : Rules) (file : ScanFile) (generation : UInt64) : Attempt :=
  { Attempt.fresh generation rules.policy.maxAttempts with
    file := some file.info, phase := .validating }

/-- What others see of a beginning. -/
def Rules.announcement (rules : Rules) (file : ScanFile) (generation : UInt64) : List Effect :=
  [.publish (rules.begun file generation),
    .log (.attemptStarted generation file.name file.size)]

theorem Rules.begin_eq (rules : Rules) (file : ScanFile) (a : Attempt) :
    rules.begin file a =
      (rules.begun file (a.generation + 1), rules.announcement file (a.generation + 1)) := rfl

/-- The first steps of a submission, by what the rules say of the file and where its contents are. A
file in memory is as good as read. -/
inductive Opening (rules : Rules) (file : ScanFile) (generation : UInt64) : Move → Prop where
  | rejected {rejection : Rejection}
      (h : rules.limits.check file.name file.size = .error rejection) :
      Opening rules file generation
        ((Move.fails generation (.rejected rejection) (rules.begun file generation)).after
          (rules.announcement file generation))
  | inMemory {contents : Blob} {move : Move}
      (checked : rules.limits.check file.name file.size = .ok ())
      (h : file.contents = .inMemory contents)
      (advance : Advance rules ⟨generation, file.name, .reading file⟩ (rules.begun file generation)
        (.reading file) (ScanFile.checkSize rules.limits.maxFileSize contents) move) :
      Opening rules file generation (move.after (rules.announcement file generation))
  | onDisk {path : List UInt8} (checked : rules.limits.check file.name file.size = .ok ())
      (h : file.contents = .onDisk path) :
      Opening rules file generation
        ⟨rules.begun file generation, rules.announcement file generation,
          .waits ⟨generation, file.name, .reading file⟩⟩

theorem Rules.opening_submit (rules : Rules) (file : ScanFile) (a : Attempt) :
    Opening rules file (a.generation + 1) (rules.submit file a) := by
  simp only [Rules.submit, rules.begin_eq]
  cases checked : rules.limits.check file.name file.size with
  | error rejection =>
    simp only
    rw [Task.fail_current rfl]
    exact .rejected checked
  | ok _ =>
    cases h : file.contents with
    | inMemory contents => exact .inMemory checked h (Task.advance_afterRead rules file _ rfl)
    | onDisk path => exact .onDisk checked h

/-- Whoever validates a file sees the attempt begin, and then the file selected or rejected. -/
theorem Rules.validate_ok (rules : Rules) {file : ScanFile} (a : Attempt)
    (checked : rules.limits.check file.name file.size = .ok ()) :
    rules.validate file a =
      (.ok (), { rules.begun file (a.generation + 1) with phase := .idle },
        rules.announcement file (a.generation + 1) ++
          [.publish { rules.begun file (a.generation + 1) with phase := .idle }]) := by
  simp only [Rules.validate, rules.begin_eq, checked]

theorem Rules.validate_error (rules : Rules) {file : ScanFile} (a : Attempt) {rejection : Rejection}
    (checked : rules.limits.check file.name file.size = .error rejection) :
    let move : Move :=
      .fails (a.generation + 1) (.rejected rejection) (rules.begun file (a.generation + 1))
    rules.validate file a =
      (.error rejection, move.attempt,
        rules.announcement file (a.generation + 1) ++ move.effects) := by
  simp only [Rules.validate, rules.begin_eq, checked]
  rw [failAttempt_current rfl]
  rfl

/-! ## Generations

No step changes the generation of the attempt or of the submission that takes it; a beginning makes
both the next one. -/

theorem Advance.generation {rules : Rules} {task : Task} {a : Attempt} {stage : Stage}
    {answer : stage.Answer} {move : Move} (h : Advance rules task a stage answer move) :
    move.attempt.generation = a.generation := by
  cases h <;> rfl

theorem Advance.task {rules : Rules} {task next : Task} {a : Attempt} {stage : Stage}
    {answer : stage.Answer} {move : Move} (h : Advance rules task a stage answer move)
    (hnext : move.outcome = .waits next) :
    next.generation = task.generation ∧ next.filename = task.filename := by
  cases h <;> cases hnext <;> exact ⟨rfl, rfl⟩

theorem Task.resume_generation (rules : Rules) (task : Task) (answer : task.stage.Answer)
    (a : Attempt) : (task.resume rules answer a).attempt.generation = a.generation := by
  by_cases h : a.generation = task.generation
  · exact (task.advance_resume rules answer h).generation
  · obtain ⟨events, hmove⟩ := task.resume_superseded rules answer a h
    rw [hmove]
    rfl

theorem Task.resume_task (rules : Rules) {task next : Task} (answer : task.stage.Answer)
    {a : Attempt} (hnext : (task.resume rules answer a).outcome = .waits next) :
    next.generation = task.generation := by
  by_cases h : a.generation = task.generation
  · exact ((task.advance_resume rules answer h).task hnext).1
  · obtain ⟨events, hmove⟩ := task.resume_superseded rules answer a h
    rw [hmove] at hnext
    cases hnext

theorem Opening.generation {rules : Rules} {file : ScanFile} {generation : UInt64} {move : Move}
    (h : Opening rules file generation move) : move.attempt.generation = generation := by
  cases h with
  | rejected h => rfl
  | inMemory checked h advance => exact advance.generation
  | onDisk checked h => rfl

theorem Opening.task {rules : Rules} {file : ScanFile} {generation : UInt64} {move : Move}
    {next : Task} (h : Opening rules file generation move) (hnext : move.outcome = .waits next) :
    next.generation = generation ∧ next.filename = file.name := by
  cases h with
  | rejected h => cases hnext
  | inMemory checked h advance => exact advance.task hnext
  | onDisk checked h =>
    cases hnext
    exact ⟨rfl, rfl⟩

end ScanClient
