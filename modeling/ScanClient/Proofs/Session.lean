import ScanClient.Submission

/-!
# Sessions

Everything that happens to one attempt: submissions, validations and resets in any order, each
submission going on whenever what it waits for has come. Between two steps of a submission anything
else may happen, and what comes is up to the service, the files and the clock.

A session counts its renewals, the beginnings and resets. The generation of the attempt counts them
too, but comes round after `2 ^ 64` of them.
-/

namespace ScanClient

/-- The rules where nothing is set. -/
def Rules.standard : Rules := ⟨.standard, .standard⟩

/-- A small file that these rules accept. -/
def sampleFile : ScanFile := .ofBlob "a.jar" (.bytes [0x50, 0x4B])

/-- What the service may say of it in the end. -/
def sampleResponse : Response where
  status := .completed
  filename := some "a.jar"
  isMalicious := some false
  probability := some .zero
  scanDate := some "2024-05-01T10:00:00Z"

/-- What may come for a submission that waits. -/
inductive Answer where
  /-- The files as a read finds them, or what breaks the read off. -/
  | read (files : Except ScanError Files.Tree)
  | upload (receipt : Except ScanError Receipt)
  | poll (response : Except ScanError Response)
  | elapsed

/-- The answer at a stage that waits for one of its kind. -/
def Answer.at? (rules : Rules) : Answer → (stage : Stage) → Option stage.Answer
  | .read files, .reading file =>
    some (files.bind fun tree => file.read tree rules.limits.maxFileSize)
  | .upload receipt, .uploading _ => some receipt
  | .poll response, .polling _ _ => some response
  | .elapsed, .waiting _ _ => some ()
  | _, _ => none

theorem Answer.at?_reading {rules : Rules} {answer : Answer} {file : ScanFile}
    {given : Except ScanError Blob} (h : answer.at? rules (.reading file) = some given) :
    ∃ files, answer = .read files ∧
      given = files.bind fun tree => file.read tree rules.limits.maxFileSize := by
  cases answer with
  | read files => exact ⟨files, rfl, (Option.some.inj h).symm⟩
  | upload receipt => cases h
  | poll response => cases h
  | elapsed => cases h

theorem Answer.at?_uploading {rules : Rules} {answer : Answer} {contents : Blob}
    {given : Except ScanError Receipt} (h : answer.at? rules (.uploading contents) = some given) :
    answer = .upload given := by
  cases answer with
  | upload receipt => exact congrArg upload (Option.some.inj h)
  | read files => cases h
  | poll response => cases h
  | elapsed => cases h

theorem Answer.at?_polling {rules : Rules} {answer : Answer} {scanId : String} {number : Nat}
    {given : Except ScanError Response}
    (h : answer.at? rules (.polling scanId number) = some given) : answer = .poll given := by
  cases answer with
  | poll response => exact congrArg poll (Option.some.inj h)
  | read files => cases h
  | upload receipt => cases h
  | elapsed => cases h

/-- A step as a submission remembers it. -/
structure Turn where
  /-- What it waited for and what came, unless it has only just begun. -/
  cause : Option (Stage × Answer)
  /-- The renewals until then. -/
  renewals : Nat
  move : Move

/-- A submission with all its steps. -/
structure Submission where
  file : ScanFile
  /-- The renewals up to its beginning, which is one of them. -/
  begun : Nat
  turns : List Turn
  /-- The last of its steps. -/
  last : Move

namespace Submission

/-- Begins with a first step. -/
def begin (file : ScanFile) (begun : Nat) (move : Move) : Submission :=
  ⟨file, begun, [⟨none, begun, move⟩], move⟩

/-- Where it has come to. -/
def outcome (sub : Submission) : Outcome := sub.last.outcome

/-- The attempt as it left it. -/
def left (sub : Submission) : Attempt := sub.last.attempt

/-- The step it takes when an answer has come. -/
def turn? (rules : Rules) (sub : Submission) (renewals : Nat) (a : Attempt) (answer : Answer) :
    Option Turn :=
  match sub.outcome with
  | .returns _ => none
  | .waits task =>
    (answer.at? rules task.stage).map fun given =>
      ⟨some (task.stage, answer), renewals, task.resume rules given a⟩

def after (sub : Submission) (turn : Turn) : Submission :=
  { sub with turns := sub.turns ++ [turn], last := turn.move }

end Submission

/-- What may happen next. -/
inductive Act where
  | submit (file : ScanFile)
  | validate (file : ScanFile)
  | reset
  /-- An answer comes for a submission, known by how many began before it. -/
  | resume (index : Nat) (answer : Answer)

/-- Whether an act moves the attempt on to another generation. -/
def Act.renews : Act → Bool
  | .resume _ _ => false
  | _ => true

structure Session where
  attempt : Attempt
  renewals : Nat
  /-- All submissions, in the order they began. -/
  submissions : List Submission
  /-- All values the attempt has had. -/
  published : List Attempt

namespace Session

def start (rules : Rules) : Session where
  attempt := .fresh 0 rules.policy.maxAttempts
  renewals := 0
  submissions := []
  published := [.fresh 0 rules.policy.maxAttempts]

/-- The attempt changes by a renewal. -/
def renew (s : Session) (a : Attempt) (effects : List Effect) : Session :=
  { s with
    attempt := a
    renewals := s.renewals + 1
    published := s.published ++ publications effects }

def submit (rules : Rules) (file : ScanFile) (s : Session) : Session :=
  let move := rules.submit file s.attempt
  { s.renew move.attempt move.effects with
    submissions := s.submissions ++ [.begin file (s.renewals + 1) move] }

def validate (rules : Rules) (file : ScanFile) (s : Session) : Session :=
  let (_, a, effects) := rules.validate file s.attempt
  s.renew a effects

def reset (rules : Rules) (s : Session) : Session :=
  let (a, effects) := rules.reset s.attempt
  s.renew a effects

/-- A submission takes a step. -/
def take (s : Session) (index : Nat) (sub : Submission) (turn : Turn) : Session :=
  { s with
    attempt := turn.move.attempt
    submissions := s.submissions.set index (sub.after turn)
    published := s.published ++ publications turn.move.effects }

/-- An act happens, if it can. Nothing can come for a submission that has not begun or has returned,
nor what it does not wait for. -/
def step? (rules : Rules) (s : Session) : Act → Option Session
  | .submit file => some (s.submit rules file)
  | .validate file => some (s.validate rules file)
  | .reset => some (s.reset rules)
  | .resume index answer =>
    match s.submissions[index]? with
    | none => none
    | some sub => (sub.turn? rules s.renewals s.attempt answer).map (s.take index sub)

/-- Acts happen one after another. -/
def run? (rules : Rules) (s : Session) : List Act → Option Session
  | [] => some s
  | act :: acts => (s.step? rules act).bind fun s => s.run? rules acts

/-- A scan from its beginning to its end: a submission, polls and all. -/
def sampleScan : List Act :=
  [.submit sampleFile, .resume 0 (.upload (.ok ⟨some "7"⟩)), .resume 0 (.poll (.ok {})),
    .resume 0 .elapsed, .resume 0 (.poll (.ok sampleResponse))]

/-! ## Runs -/

theorem run?_cons {rules : Rules} {s s' : Session} {act : Act} {acts : List Act} :
    s.run? rules (act :: acts) = some s' ↔
      ∃ next, s.step? rules act = some next ∧ next.run? rules acts = some s' :=
  Option.bind_eq_some_iff

theorem run?_append {rules : Rules} {s s' : Session} {acts more : List Act} {next : Session}
    (h : s.run? rules acts = some next) (hmore : next.run? rules more = some s') :
    s.run? rules (acts ++ more) = some s' := by
  induction acts generalizing s with
  | nil =>
    cases h
    exact hmore
  | cons act acts ih =>
    obtain ⟨first, hfirst, h⟩ := run?_cons.mp h
    exact run?_cons.mpr ⟨first, hfirst, ih h⟩

/-- What every step keeps, every run keeps. -/
theorem run?_keeps {rules : Rules} {P : Session → Prop}
    (hstep : ∀ s act s', P s → s.step? rules act = some s' → P s') {s s' : Session}
    {acts : List Act} (hs : P s) (hrun : s.run? rules acts = some s') : P s' := by
  induction acts generalizing s with
  | nil =>
    cases hrun
    exact hs
  | cons act acts ih =>
    -- the first act keeps it, and the rest starts from there
    obtain ⟨next, hnext, hrun⟩ := run?_cons.mp hrun
    exact ih (hstep s act next hs hnext) hrun

/-- A step of a submission, taken apart. -/
theorem step?_resume {rules : Rules} {s s' : Session} {index : Nat} {answer : Answer}
    (h : s.step? rules (.resume index answer) = some s') :
    ∃ sub turn, s.submissions[index]? = some sub ∧
      sub.turn? rules s.renewals s.attempt answer = some turn ∧ s' = s.take index sub turn := by
  simp only [step?] at h
  cases hsub : s.submissions[index]? with
  | none =>
    rw [hsub] at h
    cases h
  | some sub =>
    rw [hsub] at h
    obtain ⟨turn, hturn, rfl⟩ := Option.map_eq_some_iff.mp h
    exact ⟨sub, turn, rfl, hturn, rfl⟩

end Session

/-- A turn, taken apart. -/
theorem Submission.turn?_eq_some {rules : Rules} {sub : Submission} {renewals : Nat} {a : Attempt}
    {answer : Answer} {turn : Turn} (h : sub.turn? rules renewals a answer = some turn) :
    ∃ task given, sub.outcome = .waits task ∧ answer.at? rules task.stage = some given ∧
      turn = ⟨some (task.stage, answer), renewals, task.resume rules given a⟩ := by
  unfold Submission.turn? at h
  split at h
  · cases h
  · next task houtcome =>
    obtain ⟨given, hgiven, hturn⟩ := Option.map_eq_some_iff.mp h
    exact ⟨task, given, houtcome, hgiven, hturn.symm⟩

end ScanClient
