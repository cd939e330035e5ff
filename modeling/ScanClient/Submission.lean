import ScanClient.Attempt
import ScanClient.Receipt
import ScanClient.Settings

/-!
# Submissions

A submission takes a file through validation, upload and polling. It runs in steps: each goes from
one point where the submission has to wait for something to the next. Between two steps anything may
happen to the attempt, which all submissions share. So a submission knows the generation it began
with, and changes nothing once the attempt has moved on to another.
-/

namespace ScanClient

open Log

/-- What all submissions of an attempt go by. -/
structure Rules where
  policy : PollPolicy
  limits : Limits
  deriving DecidableEq, Repr

/-- What others see of a step. -/
inductive Effect where
  /-- The attempt has a new value. -/
  | publish (attempt : Attempt)
  | log (event : Event)
  deriving DecidableEq, Repr

/-- The values of the attempt that others see, of all they see. -/
def publications (effects : List Effect) : List Attempt :=
  effects.filterMap fun
    | .publish a => some a
    | .log _ => none

/-- What a submission waits for. -/
inductive Stage where
  | reading (file : ScanFile)
  | uploading (contents : Blob)
  /-- The answer to a poll; polls are counted from one. -/
  | polling (scanId : String) (number : Nat)
  /-- The time between a poll and the next. -/
  | waiting (scanId : String) (number : Nat)
  deriving DecidableEq, Repr

/-- What ends the waiting. -/
def Stage.Answer : Stage → Type
  | .reading _ => Except ScanError Blob
  | .uploading _ => Except ScanError Receipt
  | .polling _ _ => Except ScanError Response
  | .waiting _ _ => Unit

/-- A submission that waits. -/
structure Task where
  generation : UInt64
  filename : String
  stage : Stage
  deriving DecidableEq, Repr

/-- How a step ends. -/
inductive Outcome where
  | waits (task : Task)
  /-- The submission is over and gives the attempt as it is at that moment. -/
  | returns (attempt : Attempt)
  deriving DecidableEq, Repr

/-- A step: the attempt it leaves, what it showed on the way, and how it ends. -/
structure Move where
  attempt : Attempt
  effects : List Effect
  outcome : Outcome
  deriving DecidableEq, Repr

/-- A request to the service, and the attempt as it was then. -/
inductive Request where
  | upload (filename : String) (contents : Blob) (seen : Attempt)
  | poll (scanId : String) (seen : Attempt)
  deriving DecidableEq, Repr

namespace Move

/-- The request a step ends with, if it ends with one. -/
def request? (move : Move) : Option Request :=
  match move.outcome with
  | .waits ⟨_, filename, .uploading contents⟩ => some (.upload filename contents move.attempt)
  | .waits ⟨_, _, .polling scanId _⟩ => some (.poll scanId move.attempt)
  | _ => none

def final (a : Attempt) (effects : List Effect) : Move := ⟨a, effects, .returns a⟩

/-- The step with effects that came before its own. -/
def after (move : Move) (effects : List Effect) : Move :=
  { move with effects := effects ++ move.effects }

end Move

namespace Rules

/-- Forgets the attempt. -/
def reset (rules : Rules) (a : Attempt) : Attempt × List Effect :=
  let fresh := Attempt.fresh (a.generation + 1) rules.policy.maxAttempts
  (fresh, [.log (.attemptReset fresh.generation), .publish fresh])

/-- Begins an attempt for a file. -/
def begin (rules : Rules) (file : ScanFile) (a : Attempt) : Attempt × List Effect :=
  let begun : Attempt :=
    { Attempt.fresh (a.generation + 1) rules.policy.maxAttempts with
      file := some file.info, phase := .validating }
  (begun, [.publish begun, .log (.attemptStarted begun.generation file.name file.size)])

end Rules

/-- Ends an attempt in failure, if it is still the one of the generation. -/
def failAttempt (generation : UInt64) (e : ScanError) (a : Attempt) : Attempt × List Effect :=
  if a.generation = generation then
    let failed := a.fail e.recorded
    (failed, [.publish failed, .log (.attemptFailed generation e.recorded)])
  else (a, [])

namespace Rules

/-- Begins an attempt for a file and checks the file without uploading it. A file that passes stays
selected. -/
def validate (rules : Rules) (file : ScanFile) (a : Attempt) :
    Except Rejection Unit × Attempt × List Effect :=
  let (begun, effects) := rules.begin file a
  match rules.limits.check file.name file.size with
  | .ok () =>
    let selected := { begun with phase := .idle }
    (.ok (), selected, effects ++ [.publish selected])
  | .error rejection =>
    let (failed, more) := failAttempt begun.generation (.rejected rejection) begun
    (.error rejection, failed, effects ++ more)

end Rules

namespace Task

/-- Ends in failure. -/
def fail (task : Task) (e : ScanError) (a : Attempt) : Move :=
  let (a, effects) := failAttempt task.generation e a
  .final a effects

/-- Makes a poll. -/
def poll (rules : Rules) (task : Task) (scanId : String) (number : Nat) (a : Attempt) : Move :=
  if a.generation = task.generation then
    let counted := { a with attemptCount := number }
    ⟨counted, [.publish counted, .log (.polling scanId number rules.policy.budget)],
      .waits { task with stage := .polling scanId number }⟩
  else .final a []

/-- Goes on after a poll that found the scan unfinished. -/
def pollAgain (rules : Rules) (task : Task) (scanId : String) (number : Nat) (a : Attempt) : Move :=
  if number < rules.policy.budget then task.poll rules scanId (number + 1) a
  else task.fail (.timeout rules.policy.budget) a

def afterRead (task : Task) (answer : Except ScanError Blob) (a : Attempt) : Move :=
  match answer with
  | .error e => task.fail e a
  | .ok contents =>
    if a.generation = task.generation then
      let uploading := { a with phase := .uploading }
      ⟨uploading, [.publish uploading], .waits { task with stage := .uploading contents }⟩
    else .final a [.log (.supersededBeforeUpload task.generation task.filename)]

def afterUpload (rules : Rules) (task : Task) (answer : Except ScanError Receipt) (a : Attempt) :
    Move :=
  if a.generation ≠ task.generation then
    .final a [.log (.uploadDiscarded task.generation task.filename)]
  else
    match answer with
    | .error e => task.fail e a
    | .ok receipt =>
      match receipt.usableId with
      | none => task.fail .missingScanId a
      | some scanId =>
        let accepted := { a with scanId := some scanId, phase := .polling }
        (task.poll rules scanId 1 accepted).after
          [.log (.uploadAccepted task.generation scanId), .publish accepted]

def afterPoll (rules : Rules) (task : Task) (scanId : String) (number : Nat)
    (answer : Except ScanError Response) (a : Attempt) : Move :=
  if a.generation ≠ task.generation then
    .final a [.log (.pollDiscarded task.generation scanId)]
  else
    match answer with
    | .error e => task.fail e a
    | .ok response =>
      match response.status with
      | .completed =>
        match response.toResult scanId with
        | .error e => task.fail e a
        | .ok result =>
          let completed := a.complete result
          .final completed
            [.log (.scanCompleted scanId result.isMalicious result.probability),
             .publish completed]
      | .failed => task.fail (.serviceReported response.failureText) a
      | .pending | .unknown =>
        if number < rules.policy.budget then
          ⟨a, [], .waits { task with stage := .waiting scanId number }⟩
        else task.pollAgain rules scanId number a

/-- Goes on with what the submission waited for. -/
def resume (rules : Rules) : (task : Task) → task.stage.Answer → Attempt → Move
  | task@⟨_, _, .reading _⟩, answer, a => task.afterRead answer a
  | task@⟨_, _, .uploading _⟩, answer, a => task.afterUpload rules answer a
  | task@⟨_, _, .polling scanId number⟩, answer, a =>
    task.afterPoll rules scanId number answer a
  | task@⟨_, _, .waiting scanId number⟩, _, a => task.pollAgain rules scanId number a

/-- A bound on the steps a submission still makes. -/
def stepsLeft (rules : Rules) (task : Task) : Nat :=
  match task.stage with
  | .reading _ => 2 * rules.policy.budget + 2
  | .uploading _ => 2 * rules.policy.budget + 1
  | .polling _ number => 2 * (rules.policy.budget - number) + 1
  | .waiting _ number => 2 * (rules.policy.budget - number)

end Task

/-- Begins a submission. -/
def Rules.submit (rules : Rules) (file : ScanFile) (a : Attempt) : Move :=
  let (begun, effects) := rules.begin file a
  let task : Task := ⟨begun.generation, file.name, .reading file⟩
  match rules.limits.check file.name file.size with
  | .error rejection => (task.fail (.rejected rejection) begun).after effects
  | .ok () =>
    match file.contents with
    | .inMemory contents =>
      (task.afterRead (ScanFile.checkSize rules.limits.maxFileSize contents) begun).after effects
    | .onDisk _ => ⟨begun, effects, .waits task⟩

end ScanClient
