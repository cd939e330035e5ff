import ScanClient.Steps

/-!
# Rehearsals

Submissions that share an attempt, on a service that answers by a script and under a clock that is
set by hand. A submission waits in one of three places: ready to go on, held back until a hold of
the script is released, or asleep until a time.
-/

namespace ScanClient

open Log

/-- An answer of the script. One with a hold is not given before the hold is released. -/
structure Scripted (α : Type) where
  hold : Option String
  answer : Except ScanError α

/-- A submission and what it will go on with. The one everybody waits for has no name. -/
structure Job where
  name : Option String
  task : Task
  answer : task.stage.Answer

/-- What happened since the record was last cleared. -/
structure Record where
  changed : Bool
  requests : List Request
  events : List Event
  finished : List (String × Attempt)
  /-- What the submission without a name returned. -/
  returned : Option Attempt

def Record.empty : Record := ⟨false, [], [], [], none⟩

structure Rehearsal where
  rules : Rules
  attempt : Attempt
  tree : Files.Tree
  uploads : List (Scripted Receipt)
  polls : List (Scripted Response)
  released : List String
  /-- The time in milliseconds. -/
  clock : Nat
  ready : List Job
  held : List (String × Job)
  /-- The soonest first. Of those at one time, the one without a name comes before the others, and
  else the one that went to sleep first. -/
  asleep : List (Nat × Job)
  record : Record

namespace Rehearsal

/-- Thirty years in milliseconds. Nothing waits longer. -/
def longestWait : Nat := 946080000000

def begin (rules : Rules) (tree : Files.Tree) (uploads : List (Scripted Receipt))
    (polls : List (Scripted Response)) : Rehearsal where
  rules := rules
  attempt := .fresh 0 rules.policy.maxAttempts
  tree := tree
  uploads := uploads
  polls := polls
  released := []
  clock := 0
  ready := []
  held := []
  asleep := []
  record := .empty

def clearRecord (r : Rehearsal) : Rehearsal := { r with record := .empty }

def Effect.addTo (record : Record) : Effect → Record
  | .publish _ => { record with changed := true }
  | .log event => { record with events := record.events ++ [event] }

/-- The attempt changes, for everybody to see. -/
def change (r : Rehearsal) (attempt : Attempt) (effects : List Effect) : Rehearsal :=
  { r with attempt := attempt, record := effects.foldl Effect.addTo r.record }

def noteRequest (r : Rehearsal) (request : Option Request) : Rehearsal :=
  { r with record := { r.record with requests := r.record.requests ++ request.toList } }

/-- Lets a submission go on with an answer of the service, at once unless it is held back. -/
def serve (r : Rehearsal) (job : Job) (hold : Option String) : Rehearsal :=
  match hold.filter fun h => !r.released.contains h with
  | some h => { r with held := r.held ++ [(h, job)] }
  | none => { r with ready := job :: r.ready }

/-- Whether a submission that is to wake at a time comes after one that is asleep until another. -/
def wakesAfter (time : Nat) (job : Job) (other : Nat) : Bool :=
  other < time || (other == time && job.name.isSome)

def insertAsleep (time : Nat) (job : Job) : List (Nat × Job) → List (Nat × Job)
  | [] => [(time, job)]
  | (t, j) :: rest =>
    if wakesAfter time job t then (t, j) :: insertAsleep time job rest
    else (time, job) :: (t, j) :: rest

/-- A script that has come to its end accepts uploads without an identifier. -/
def nextUpload (r : Rehearsal) : Scripted Receipt := r.uploads.headD ⟨none, .ok .empty⟩

/-- A script that has come to its end finds every scan pending. -/
def nextPoll (r : Rehearsal) : Scripted Response :=
  r.polls.headD ⟨none, .ok { status := .pending }⟩

/-- Puts a submission where it waits. Reading from disk lets the others go first; a wait that takes no
time does not. -/
def place (r : Rehearsal) (name : Option String) : Task → Rehearsal
  | ⟨generation, filename, .reading file⟩ =>
    let contents := file.read r.tree r.rules.limits.maxFileSize
    { r with ready := r.ready ++ [⟨name, ⟨generation, filename, .reading file⟩, contents⟩] }
  | ⟨generation, filename, .uploading contents⟩ =>
    let job : Job := ⟨name, ⟨generation, filename, .uploading contents⟩, r.nextUpload.answer⟩
    { r with uploads := r.uploads.tail }.serve job r.nextUpload.hold
  | ⟨generation, filename, .polling scanId number⟩ =>
    let job : Job := ⟨name, ⟨generation, filename, .polling scanId number⟩, r.nextPoll.answer⟩
    { r with polls := r.polls.tail }.serve job r.nextPoll.hold
  | ⟨generation, filename, .waiting scanId number⟩ =>
    let job : Job := ⟨name, ⟨generation, filename, .waiting scanId number⟩, ()⟩
    if r.rules.policy.interval = 0 then { r with ready := job :: r.ready }
    else
      let time := r.clock + min r.rules.policy.interval longestWait
      { r with asleep := insertAsleep time job r.asleep }

def noteReturn (r : Rehearsal) (name : Option String) (attempt : Attempt) : Rehearsal :=
  match name with
  | some n =>
    { r with record := { r.record with finished := r.record.finished ++ [(n, attempt)] } }
  | none => { r with record := { r.record with returned := some attempt } }

/-- Takes a step of a submission. -/
def take (r : Rehearsal) (name : Option String) (move : Move) : Rehearsal :=
  match move.outcome with
  | .returns attempt => (r.change move.attempt move.effects).noteReturn name attempt
  | .waits task =>
    ((r.change move.attempt move.effects).noteRequest move.request?).place name task

def go (r : Rehearsal) (job : Job) : Rehearsal :=
  r.take job.name (job.task.resume r.rules job.answer r.attempt)

/-- The next thing that happens up to a time, if there is a time: the first submission that is ready
goes on, or the clock moves to where the next one wakes. -/
def next (r : Rehearsal) (until? : Option Nat) : Option Rehearsal :=
  match r.ready with
  | job :: rest => some ({ r with ready := rest }.go job)
  | [] =>
    match r.asleep with
    | [] => none
    | (time, job) :: rest =>
      if until?.all (time ≤ ·) then
        some ({ r with asleep := rest, clock := max r.clock time }.go job)
      else none

/-! ## Where submissions wait -/

/-- All submissions that have not returned. -/
def jobs (r : Rehearsal) : List Job := r.ready ++ r.held.map Prod.snd ++ r.asleep.map Prod.snd

theorem perm_insertAsleep (time : Nat) (job : Job) (jobs : List (Nat × Job)) :
    (insertAsleep time job jobs).Perm ((time, job) :: jobs) := by
  induction jobs with
  | nil => exact List.Perm.refl _
  | cons entry rest ih =>
    obtain ⟨t, j⟩ := entry
    unfold insertAsleep
    split
    · exact (ih.cons _).trans (List.Perm.swap _ _ _)
    · exact List.Perm.refl _

theorem jobs_serve (r : Rehearsal) (job : Job) (hold : Option String) :
    (r.serve job hold).jobs.Perm (job :: r.jobs) := by
  unfold serve
  split
  · simp only [jobs, List.map_append, List.map_cons, List.map_nil, List.append_assoc]
    exact (List.perm_middle.append_left _).trans List.perm_middle
  · exact List.Perm.refl _

theorem serve_same (r : Rehearsal) (job : Job) (hold : Option String) :
    (r.serve job hold).attempt = r.attempt ∧ (r.serve job hold).rules = r.rules := by
  unfold serve
  split <;> exact ⟨rfl, rfl⟩

/-- What a submission may go on with: whatever the script says, and what there is to be read. -/
def CanGive (r : Rehearsal) : (stage : Stage) → stage.Answer → Prop
  | .reading file, contents => contents = file.read r.tree r.rules.limits.maxFileSize
  | _, _ => True

/-- A submission that has to wait is put somewhere, with an answer that comes in time. -/
theorem place_job (r : Rehearsal) (name : Option String) (task : Task) :
    ∃ job : Job, job.task = task ∧ r.CanGive job.task.stage job.answer ∧
      (r.place name task).jobs.Perm (job :: r.jobs) ∧
      (r.place name task).attempt = r.attempt ∧ (r.place name task).rules = r.rules := by
  obtain ⟨generation, filename, stage⟩ := task
  cases stage with
  | reading file =>
    refine ⟨⟨name, ⟨generation, filename, .reading file⟩,
      file.read r.tree r.rules.limits.maxFileSize⟩, rfl, rfl, ?_, rfl, rfl⟩
    simp only [place, jobs, List.append_assoc, List.cons_append, List.nil_append]
    exact List.perm_middle
  | uploading contents =>
    let job : Job := ⟨name, ⟨generation, filename, .uploading contents⟩, r.nextUpload.answer⟩
    let rest : Rehearsal := { r with uploads := r.uploads.tail }
    exact ⟨job, rfl, trivial, rest.jobs_serve job r.nextUpload.hold,
      rest.serve_same job r.nextUpload.hold⟩
  | polling scanId number =>
    let job : Job := ⟨name, ⟨generation, filename, .polling scanId number⟩, r.nextPoll.answer⟩
    let rest : Rehearsal := { r with polls := r.polls.tail }
    exact ⟨job, rfl, trivial, rest.jobs_serve job r.nextPoll.hold,
      rest.serve_same job r.nextPoll.hold⟩
  | waiting scanId number =>
    let job : Job := ⟨name, ⟨generation, filename, .waiting scanId number⟩, ()⟩
    refine ⟨job, rfl, trivial, ?_⟩
    simp only [place]
    split
    · exact ⟨List.Perm.refl _, rfl, rfl⟩
    · -- wherever among the sleepers it comes, it is one of them
      refine ⟨?_, rfl, rfl⟩
      simp only [jobs]
      exact (((perm_insertAsleep _ job r.asleep).map Prod.snd).append_left _).trans
        List.perm_middle

/-! ## Rehearsals end -/

def jobSteps (rules : Rules) (job : Job) : Nat := job.task.stepsLeft rules + 1

def stepsLeft (r : Rehearsal) : Nat :=
  r.jobs.foldr (fun job steps => jobSteps r.rules job + steps) 0

/-- One more submission that goes on is its own steps more. -/
theorem stepsLeft_of_perm {r r' : Rehearsal} {job : Job} (h : r'.jobs.Perm (job :: r.jobs))
    (hrules : r'.rules = r.rules) : r'.stepsLeft = r.stepsLeft + jobSteps r.rules job := by
  unfold stepsLeft
  rw [hrules, Nat.add_comm]
  refine h.foldr_eq' ?_ 0
  intro _ _ _ _ steps
  exact Nat.add_left_comm ..

theorem stepsLeft_place (r : Rehearsal) (name : Option String) (task : Task) :
    (r.place name task).stepsLeft = r.stepsLeft + (task.stepsLeft r.rules + 1) := by
  obtain ⟨job, rfl, _, hjobs, _, hrules⟩ := r.place_job name task
  exact stepsLeft_of_perm hjobs hrules

theorem stepsLeft_take (r : Rehearsal) (name : Option String) (move : Move) :
    (r.take name move).stepsLeft = r.stepsLeft + move.stepsLeft r.rules := by
  unfold take Move.stepsLeft
  split
  · cases name <;> simp only [noteReturn, *] <;> rfl
  · rw [stepsLeft_place]
    simp only [*]
    rfl

theorem stepsLeft_go_lt (r : Rehearsal) (job : Job) :
    (r.go job).stepsLeft < r.stepsLeft + jobSteps r.rules job := by
  have := job.task.stepsLeft_resume_le r.rules job.answer r.attempt
  rw [go, stepsLeft_take, jobSteps]
  omega

theorem stepsLeft_next_lt {r r' : Rehearsal} {until? : Option Nat} (h : r.next until? = some r') :
    r'.stepsLeft < r.stepsLeft := by
  unfold next at h
  split at h
  · rename_i job rest hready
    injection h with h
    subst h
    have hjobs : r.jobs.Perm (job :: { r with ready := rest }.jobs) := by
      simp only [jobs, hready]
      exact .refl _
    rw [stepsLeft_of_perm hjobs rfl]
    exact stepsLeft_go_lt ..
  · split at h
    · cases h
    · split at h
      · rename_i hready _ time job rest hasleep _
        injection h with h
        subst h
        have hjobs : r.jobs.Perm
            (job :: { r with asleep := rest, clock := max r.clock time }.jobs) := by
          simp only [jobs, hready, hasleep]
          exact List.perm_middle
        rw [stepsLeft_of_perm hjobs rfl]
        exact stepsLeft_go_lt ..
      · cases h

/-! ## What a rehearsal can be told -/

/-- Lets everything happen up to a time, or until `enough`. -/
def run (until? : Option Nat) (enough : Rehearsal → Bool) (r : Rehearsal) : Rehearsal :=
  if enough r then r
  else
    match _h : r.next until? with
    | none => r
    | some r' => run until? enough r'
termination_by r.stepsLeft
decreasing_by exact stepsLeft_next_lt _h

/-- Lets everything happen that takes no more time. -/
def settle (r : Rehearsal) : Rehearsal := r.run (some r.clock) fun _ => false

def isBack (r : Rehearsal) : Bool := r.record.returned.isSome

/-- Waits for the submission without a name, as long as it takes. -/
def await (r : Rehearsal) : Rehearsal := (r.run none isBack).settle

/-- Begins a submission in the background. -/
def start (r : Rehearsal) (name : String) (file : ScanFile) : Rehearsal :=
  (r.take (some name) (r.rules.submit file r.attempt)).settle

/-- Runs a submission to its end. -/
def submit (r : Rehearsal) (file : ScanFile) : Rehearsal :=
  (r.take none (r.rules.submit file r.attempt)).await

def applyReset (r : Rehearsal) : Rehearsal :=
  let (attempt, effects) := r.rules.reset r.attempt
  r.change attempt effects

def reset (r : Rehearsal) : Rehearsal := r.applyReset.settle

/-- Whether nothing goes on by itself: at most a read from disk is on its way. -/
def isPausing (r : Rehearsal) : Bool :=
  match r.ready with
  | ⟨_, ⟨_, _, .uploading _⟩, _⟩ :: _ => false
  | ⟨_, ⟨_, _, .polling _ _⟩, _⟩ :: _ => false
  | ⟨_, ⟨_, _, .waiting _ _⟩, _⟩ :: _ => false
  | _ => true

/-- Runs a submission until it first has to wait, resets the attempt, and runs it to its end. -/
def interrupt (r : Rehearsal) (file : ScanFile) : Rehearsal :=
  let paused := (r.take none (r.rules.submit file r.attempt)).run (some r.clock) isPausing
  if paused.isBack then paused.settle else paused.applyReset.await

def validate (r : Rehearsal) (file : ScanFile) : Except Rejection Unit × Rehearsal :=
  let (verdict, attempt, effects) := r.rules.validate file r.attempt
  (verdict, (r.change attempt effects).settle)

/-- Releases a hold, for now and later. -/
def release (r : Rehearsal) (hold : String) : Rehearsal :=
  let (freed, held) := r.held.partition fun (h, _) => h == hold
  { r with
    released := hold :: r.released
    held := held
    ready := r.ready ++ freed.map Prod.snd }.settle

/-- Lets time pass. -/
def advance (r : Rehearsal) (ms : Nat) : Rehearsal :=
  let target := r.clock + min ms longestWait
  let r' := r.run (some target) fun _ => false
  { r' with clock := target }

end Rehearsal

end ScanClient
