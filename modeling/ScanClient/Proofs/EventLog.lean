import ScanClient.Cli.Program
import ScanClient.Proofs.Happenings

/-!
# What the log tells of submissions

On its way a submission logs nothing but events for debugging. It ends with one that matters more,
or is superseded. Then its last step still logs that an answer of the service was thrown away, or
that contents were read in vain; if it was only waiting, it is silent.
-/

namespace ScanClient

open Log

/-! ## What a step logs -/

theorem Cli.logged_append (effects more : List Effect) :
    logged (effects ++ more) = logged effects ++ logged more :=
  List.filterMap_append

theorem Cli.logged_logs (events : List Event) : logged (events.map .log) = events := by
  induction events with
  | nil => rfl
  | cons event events ih => exact congrArg (event :: ·) ih

namespace Submission

/-- All that a submission has logged. -/
def events (sub : Submission) : List Event :=
  sub.turns.flatMap fun turn => Cli.logged turn.move.effects

def eventsAt (sub : Submission) (level : Level) : List Event :=
  sub.events.filter (·.entry.level = level)

theorem events_begin (file : ScanFile) (begun : Nat) (move : Move) :
    (begin file begun move).events = Cli.logged move.effects :=
  List.flatMap_singleton _ _

theorem events_after (sub : Submission) (turn : Turn) :
    (sub.after turn).events = sub.events ++ Cli.logged turn.move.effects := by
  simp only [events, after, List.flatMap_append, List.flatMap_singleton]

end Submission

/-- The events of a submission that goes on. -/
def Log.Event.IsSteady : Event → Prop
  | .attemptStarted _ _ _ | .uploadAccepted _ _ | .polling _ _ _ => True
  | _ => False

theorem Log.Event.IsSteady.level {event : Event} (h : event.IsSteady) :
    event.entry.level = .debug := by
  cases event with
  | attemptStarted generation file size => rfl
  | uploadAccepted generation scanId => rfl
  | polling scanId attempt maxAttempts => rfl
  | _ => cases h

/-- Above that level nothing is left of them. -/
theorem Submission.eventsAt_eq {sub : Submission} {steady last : List Event}
    (hsteady : ∀ event ∈ steady, event.IsSteady) (hevents : sub.events = steady ++ last)
    (level : Level) (hlevel : level ≠ .debug) :
    sub.eventsAt level = last.filter (·.entry.level = level) := by
  rw [eventsAt, hevents, List.filter_append, List.filter_eq_nil_iff.mpr, List.nil_append]
  intro event hevent
  rw [decide_eq_true_iff, (hsteady event hevent).level]
  exact hlevel.symm

/-! ## Submissions that have not been disturbed -/

/-- An event that tells how an attempt has ended. -/
inductive Attempt.ToldBy (a : Attempt) : Event → Prop where
  | completed {scanId : String} {result : ScanResult} (hphase : a.phase = .completed)
      (hscanId : a.scanId = some scanId) (hresult : a.result = some result) :
      a.ToldBy (.scanCompleted scanId result.isMalicious result.probability)
  | failed {failure : Failure} (hphase : a.phase = .failed) (herror : a.error = some failure) :
      a.ToldBy (.attemptFailed a.generation failure)

theorem Attempt.ToldBy.level {a : Attempt} {event : Event} (h : a.ToldBy event) :
    event.entry.level = .info := by
  cases h <;> rfl

/-- What has been logged when a step ends so: only steady events if the submission waits, and one
more if it returns, which tells of the end. -/
def Outcome.ToldBy (events : List Event) : Outcome → Prop
  | .waits _ => ∀ event ∈ events, event.IsSteady
  | .returns a => ∃ steady event, events = steady ++ [event] ∧
      (∀ event ∈ steady, event.IsSteady) ∧ a.ToldBy event

section Steps

variable {rules : Rules} {file : ScanFile} {generation : UInt64} {events : List Event}

theorem Standing.told {task : Task} {left : Attempt}
    (standing : Standing rules file generation task left)
    (steady : ∀ event ∈ events, event.IsSteady) {given : task.stage.Answer} {move : Move}
    (h : Advance rules task left task.stage given move) :
    move.outcome.ToldBy (events ++ Cli.logged move.effects) := by
  have hcurrent := standing.current
  obtain ⟨taskGeneration, filename, stage⟩ := task
  have hleft : left = stage.leaves (rules.begun file generation) := standing.left_eq
  cases h with
  | @fails _ _ e h =>
    refine ⟨events, .attemptFailed taskGeneration e.recorded, rfl, steady, ?_⟩
    obtain rfl : left.generation = taskGeneration := hcurrent
    exact .failed rfl rfl
  | uploads selected contents =>
    exact List.forall_mem_append.mpr ⟨steady, fun _ h => nomatch h⟩
  | accepted contents h =>
    refine List.forall_mem_append.mpr ⟨steady, ?_⟩
    exact List.forall_mem_cons.mpr ⟨trivial, List.forall_mem_singleton.mpr trivial⟩
  | pauses scanId h room => exact List.forall_mem_append.mpr ⟨steady, fun _ h => nomatch h⟩
  | polls scanId room =>
    exact List.forall_mem_append.mpr ⟨steady, List.forall_mem_singleton.mpr trivial⟩
  | completes number status h =>
    refine ⟨events, _, rfl, steady, .completed rfl ?_ rfl⟩
    rw [hleft]
    rfl

theorem Opening.told {move : Move} (h : Opening rules file generation move) :
    move.outcome.ToldBy (Cli.logged move.effects) := by
  have steady : ∀ event ∈ [Event.attemptStarted generation file.name file.size],
      event.IsSteady :=
    List.forall_mem_singleton.mpr trivial
  cases h with
  | rejected h => exact ⟨_, _, rfl, steady, .failed rfl rfl⟩
  | inMemory checked h advance =>
    simp only [Move.after, Cli.logged_append]
    exact (rules.standing_begun generation checked).told steady advance
  | onDisk checked h => exact steady

theorem Opening.logged_reading {move : Move} (h : Opening rules file generation move) {next : Task}
    (hnext : move.outcome = .waits next) {selected : ScanFile}
    (hstage : next.stage = .reading selected) :
    Cli.logged move.effects = [.attemptStarted generation file.name file.size] := by
  cases h with
  | rejected h => cases hnext
  | inMemory checked h advance => exact absurd hstage (advance.not_reading hnext selected)
  | onDisk checked h => rfl

end Steps

namespace Undisturbed

variable {rules : Rules} {sub : Submission}

theorem told (h : Undisturbed rules sub) : sub.outcome.ToldBy sub.events := by
  induction h with
  | begins file h =>
    rw [Submission.events_begin]
    exact (rules.opening_submit file _).told
  | goesOn h hturn ih =>
    obtain ⟨task, given, move, houtcome, standing, _, advance, rfl⟩ := h.advance hturn
    rw [houtcome] at ih
    rw [Submission.events_after]
    exact standing.told ih advance

/-- A submission that reads has only just begun. -/
theorem events_reading (h : Undisturbed rules sub) {task : Task}
    (houtcome : sub.outcome = .waits task) {selected : ScanFile}
    (hstage : task.stage = .reading selected) :
    sub.answers = [] ∧
      sub.events = [.attemptStarted sub.generation sub.file.name sub.file.size] := by
  cases h with
  | begins file h =>
    refine ⟨rfl, ?_⟩
    rw [Submission.events_begin,
      (rules.opening_submit file _).logged_reading houtcome hstage, h]
    rfl
  | goesOn h hturn =>
    obtain ⟨_, _, _, _, _, _, advance, rfl⟩ := h.advance hturn
    exact absurd hstage (advance.not_reading houtcome selected)

/-- What a superseded submission adds when an answer comes. -/
theorem events_abandon (h : Undisturbed rules sub) {renewals : Nat} {a : Attempt} {answer : Answer}
    {turn : Turn} (hother : a.generation ≠ sub.generation)
    (hturn : sub.turn? rules renewals a answer = some turn) :
    ∃ (task : Task) (given : task.stage.Answer), sub.outcome = .waits task ∧
      answer.at? rules task.stage = some given ∧ (sub.after turn).outcome = .returns a ∧
      (sub.after turn).events =
        sub.events ++ task.stage.farewell sub.generation sub.file.name given := by
  obtain ⟨task, given, houtcome, hgiven, rfl⟩ := Submission.turn?_eq_some hturn
  have standing := h.standing houtcome
  have hgone : a.generation ≠ task.generation := standing.generation_eq ▸ hother
  have hmove := task.resume_eq_farewell rules given a hgone
  refine ⟨task, given, houtcome, hgiven, ?_, ?_⟩
  · rw [Submission.outcome, Submission.after, hmove]
    rfl
  · rw [Submission.events_after, hmove, Move.final, Cli.logged_logs, standing.generation_eq,
      standing.filename_eq]
    rfl

end Undisturbed

/-! ## What is told -/

theorem Log.Event.IsSteady.not_superseded {generation : UInt64} {filename : String} :
    ¬(Event.supersededBeforeUpload generation filename).IsSteady := nofun

theorem Stage.farewell_reading (file : ScanFile) (generation : UInt64) (filename : String)
    (given : Except ScanError Blob) :
    (Stage.reading file).farewell generation filename given =
      if given.isOk then [.supersededBeforeUpload generation filename] else [] := by
  cases given <;> rfl

/-- Only a superseded read ends with an event for debugging. -/
theorem Stage.suspension_of_mem_farewell {stage : Stage} {given : stage.Answer}
    {generation other : UInt64} {filename name : String}
    (h : .supersededBeforeUpload other name ∈ stage.farewell generation filename given) :
    stage.suspension = .read := by
  cases stage with
  | reading file => rfl
  | uploading contents => cases List.mem_singleton.mp h
  | polling scanId number => cases List.mem_singleton.mp h
  | waiting scanId number => cases h

theorem Stage.info_farewell (stage : Stage) (given : stage.Answer) (generation : UInt64)
    (filename : String) :
    (stage.farewell generation filename given).filter (·.entry.level = .info) = [] := by
  cases stage with
  | reading file => cases given <;> rfl
  | uploading contents => rfl
  | polling scanId number => rfl
  | waiting scanId number => rfl

namespace Submission

/-- The log tells whether a submission has ended its attempt, and how. -/
structure TellsEnd (rules : Rules) (acts : List Act) (index : Nat) (sub : Submission) : Prop where
  completed :
    (∃ scanId malicious probability,
      sub.eventsAt .info = [.scanCompleted scanId malicious probability]) ↔
    ∃ a, Session.Moves rules acts index a ∧ a.phase = .completed
  failed :
    (∃ failure, sub.eventsAt .info = [.attemptFailed sub.generation failure]) ↔
    ∃ a, Session.Moves rules acts index a ∧ a.phase = .failed
  /-- What is told of the end is what the attempt records. -/
  recorded : ∀ a, Session.Moves rules acts index a → a.phase.isTerminal = true →
    ∃ event, a.ToldBy event ∧ sub.eventsAt .info = [event]
  silent : (∀ a, Session.Moves rules acts index a → a.phase.isTerminal = false) →
    sub.eventsAt .info = []

/-- The log tells whether a submission was superseded during a call, and of a superseded read
whether it succeeded. -/
structure TellsSupersession (rules : Rules) (acts : List Act) (index : Nat) (sub : Submission) :
    Prop where
  duringUpload : sub.eventsAt .warn = [.uploadDiscarded sub.generation sub.file.name] ↔
    Session.Supersedes rules acts index .upload
  duringPoll : (∃ scanId, sub.eventsAt .warn = [.pollDiscarded sub.generation scanId]) ↔
    Session.Supersedes rules acts index .poll
  silent : ¬Session.Supersedes rules acts index .upload →
    ¬Session.Supersedes rules acts index .poll → sub.eventsAt .warn = []
  /-- A read that has failed is not told of. -/
  duringRead : Session.Supersedes rules acts index .read →
    ∃ files, acts.filterMap (Act.answerFor? index) = [.read files] ∧
      sub.events = .attemptStarted sub.generation sub.file.name sub.file.size ::
        if (files.bind fun tree => sub.file.read tree rules.limits.maxFileSize).isOk then
          [.supersededBeforeUpload sub.generation sub.file.name]
        else []
  beforeUpload : ∀ generation filename,
    .supersededBeforeUpload generation filename ∈ sub.events →
      Session.Supersedes rules acts index .read
  duringWait : Session.Supersedes rules acts index .wait →
    sub.eventsAt .info = [] ∧ sub.eventsAt .warn = [] ∧
      ∀ generation filename, .supersededBeforeUpload generation filename ∉ sub.events

section Tells

variable {rules : Rules} {acts : List Act} {renewals index : Nat} {sub : Submission} {a : Attempt}

theorem Accounted.tellsEnd (accounted : sub.Accounted rules acts renewals index)
    (hreturns : sub.outcome = .returns a) (hown : a.generation = sub.generation) {event : Event}
    (htold : a.ToldBy event) (hinfo : sub.eventsAt .info = [event]) :
    sub.TellsEnd rules acts index := by
  have hover : a.phase.isTerminal = true := by
    cases htold with
    | completed hphase => rw [hphase]; rfl
    | failed hphase => rw [hphase]; rfl
  have hmoves : ∀ b, b.phase.isTerminal = true →
      (Session.Moves rules acts index b ↔ b = a) := by
    intro b hb
    rw [accounted.moves b hb]
    constructor
    · rintro ⟨hother, _⟩
      exact Outcome.returns.inj (hother.symm.trans hreturns)
    · rintro rfl
      exact ⟨hreturns, hown⟩
  have hmoved := (hmoves a hover).mpr rfl
  refine ⟨⟨?_, ?_⟩, ⟨?_, ?_⟩, ?_, ?_⟩
  · rintro ⟨scanId, malicious, probability, h⟩
    cases hinfo.symm.trans h
    cases htold with
    | completed hphase => exact ⟨a, hmoved, hphase⟩
  · rintro ⟨b, hb, hphase⟩
    obtain rfl := (hmoves b (by rw [hphase]; rfl)).mp hb
    cases htold with
    | completed => exact ⟨_, _, _, hinfo⟩
    | failed hfailed => cases hphase.symm.trans hfailed
  · rintro ⟨failure, h⟩
    rw [← hown] at h
    cases hinfo.symm.trans h
    cases htold with
    | failed hphase => exact ⟨a, hmoved, hphase⟩
  · rintro ⟨b, hb, hphase⟩
    obtain rfl := (hmoves b (by rw [hphase]; rfl)).mp hb
    cases htold with
    | completed hcompleted => cases hphase.symm.trans hcompleted
    | failed => exact ⟨_, hown ▸ hinfo⟩
  · intro b hb hterminal
    obtain rfl := (hmoves b hterminal).mp hb
    exact ⟨event, htold, hinfo⟩
  · intro hnone
    cases hover.symm.trans (hnone a hmoved)

/-- Nobody ends the attempt who has lost it. -/
theorem Accounted.tellsNoEnd (accounted : sub.Accounted rules acts renewals index)
    (hreturns : sub.outcome = .returns a) (hother : a.generation ≠ sub.generation)
    (hinfo : sub.eventsAt .info = []) : sub.TellsEnd rules acts index := by
  have hnone : ∀ b, b.phase.isTerminal = true → ¬Session.Moves rules acts index b := by
    intro b hb hmoves
    exact not_ended_of_ne hreturns hother b ((accounted.moves b hb).mp hmoves)
  refine ⟨iff_of_false ?_ ?_, iff_of_false ?_ ?_, ?_, fun _ => hinfo⟩
  · rintro ⟨scanId, malicious, probability, h⟩
    cases hinfo.symm.trans h
  · rintro ⟨b, hb, hphase⟩
    exact hnone b (by rw [hphase]; rfl) hb
  · rintro ⟨failure, h⟩
    cases hinfo.symm.trans h
  · rintro ⟨b, hb, hphase⟩
    exact hnone b (by rw [hphase]; rfl) hb
  · intro b hb hterminal
    exact absurd hb (hnone b hterminal)

theorem tellsNoSupersession (hnone : ∀ kind, ¬Session.Supersedes rules acts index kind)
    (hwarn : sub.eventsAt .warn = [])
    (hbefore : ∀ generation filename,
      .supersededBeforeUpload generation filename ∉ sub.events) :
    sub.TellsSupersession rules acts index where
  duringUpload := by
    refine iff_of_false (fun h => ?_) (hnone .upload)
    cases hwarn.symm.trans h
  duringPoll := by
    refine iff_of_false ?_ (hnone .poll)
    rintro ⟨scanId, h⟩
    cases hwarn.symm.trans h
  silent _ _ := hwarn
  duringRead h := absurd h (hnone .read)
  beforeUpload generation filename h := absurd h (hbefore generation filename)
  duringWait h := absurd h (hnone .wait)

/-- The last events tell what a submission was waiting for when it was superseded. -/
theorem tellsSupersession {stage : Stage} {given : stage.Answer} {steady : List Event}
    (hsteady : ∀ event ∈ steady, event.IsSteady)
    (hevents : sub.events = steady ++ stage.farewell sub.generation sub.file.name given)
    (hkind : ∀ kind, Session.Supersedes rules acts index kind ↔ stage.suspension = kind)
    (hread : stage.suspension = .read →
      ∃ files, acts.filterMap (Act.answerFor? index) = [.read files] ∧
        sub.events = .attemptStarted sub.generation sub.file.name sub.file.size ::
          if (files.bind fun tree => sub.file.read tree rules.limits.maxFileSize).isOk then
            [.supersededBeforeUpload sub.generation sub.file.name]
          else []) :
    sub.TellsSupersession rules acts index := by
  have hinfo := (eventsAt_eq hsteady hevents .info nofun).trans
    (stage.info_farewell given sub.generation sub.file.name)
  have hwarn := eventsAt_eq hsteady hevents .warn nofun
  have hbefore : ∀ generation filename,
      .supersededBeforeUpload generation filename ∈ sub.events → stage.suspension = .read := by
    intro generation filename h
    rw [hevents] at h
    rcases List.mem_append.mp h with h | h
    · exact absurd (hsteady _ h) Event.IsSteady.not_superseded
    · exact Stage.suspension_of_mem_farewell h
  refine ⟨?_, ?_, ?_, fun h => hread ((hkind .read).mp h), ?_, ?_⟩
  · rw [hkind, hwarn]
    cases stage with
    | reading file => cases given <;> exact iff_of_false nofun nofun
    | uploading contents => exact iff_of_true rfl rfl
    | polling scanId number => exact iff_of_false nofun nofun
    | waiting scanId number => exact iff_of_false nofun nofun
  · rw [hkind, hwarn]
    cases stage with
    | reading file => cases given <;> exact iff_of_false nofun nofun
    | uploading contents => exact iff_of_false nofun nofun
    | polling scanId number => exact iff_of_true ⟨scanId, rfl⟩ rfl
    | waiting scanId number => exact iff_of_false nofun nofun
  · rw [hkind, hkind, hwarn]
    intro hupload hpoll
    cases stage with
    | reading file => cases given <;> rfl
    | uploading contents => exact absurd rfl hupload
    | polling scanId number => exact absurd rfl hpoll
    | waiting scanId number => rfl
  · intro generation filename h
    exact (hkind .read).mpr (hbefore generation filename h)
  · rw [hkind]
    intro hwait
    refine ⟨hinfo, ?_, fun generation filename h => ?_⟩
    · rw [hwarn]
      cases stage with
      | waiting scanId number => rfl
      | _ => cases hwait
    · cases hwait.symm.trans (hbefore generation filename h)

end Tells

/-- What the log has of a submission. -/
structure Tells (rules : Rules) (acts : List Act) (index : Nat) (sub : Submission) : Prop where
  ending : sub.TellsEnd rules acts index
  supersession : sub.TellsSupersession rules acts index
  /-- It tells of one or the other. -/
  exclusive : sub.eventsAt .info = [] ∨ sub.eventsAt .warn = []

end Submission

section Returned

variable {rules : Rules} {acts : List Act} {renewals index : Nat} {sub : Submission}

theorem Undisturbed.tells (h : Undisturbed rules sub) {a : Attempt}
    (hreturns : sub.outcome = .returns a)
    (accounted : sub.Accounted rules acts renewals index) : sub.Tells rules acts index := by
  have hown : a.generation = sub.generation := by
    rw [(h.concludes a hreturns).1]
    exact h.generation_left
  have told := h.told
  rw [hreturns] at told
  obtain ⟨steady, event, hevents, hsteady, htold⟩ := told
  have hinfo : sub.eventsAt .info = [event] := by
    rw [Submission.eventsAt_eq hsteady hevents .info nofun]
    exact List.filter_eq_self.mpr (List.forall_mem_singleton.mpr (decide_eq_true htold.level))
  have hwarn : sub.eventsAt .warn = [] := by
    rw [Submission.eventsAt_eq hsteady hevents .warn nofun]
    refine List.filter_eq_nil_iff.mpr (List.forall_mem_singleton.mpr ?_)
    rw [decide_eq_true_iff, htold.level]
    exact nofun
  refine ⟨accounted.tellsEnd hreturns hown htold hinfo, ?_, .inr hwarn⟩
  refine Submission.tellsNoSupersession (fun kind hkind => ?_) hwarn fun generation name hmem => ?_
  · have hlate := (accounted.supersedes kind).mp hkind
    exact ((Submission.supersededIn_returns hreturns).mp hlate).1 hown
  · rw [hevents] at hmem
    rcases List.mem_append.mp hmem with hmem | hmem
    · exact Event.IsSteady.not_superseded (hsteady _ hmem)
    · rw [← List.mem_singleton.mp hmem] at htold
      cases htold

/-- The last step of a superseded submission tells what it was superseded in. -/
theorem Undisturbed.tells_after (h : Undisturbed rules sub) {now : Nat} {a : Attempt}
    {answer : Answer} {turn : Turn} (hother : a.generation ≠ sub.generation)
    (hturn : sub.turn? rules now a answer = some turn)
    (accounted : (sub.after turn).Accounted rules acts renewals index) :
    (sub.after turn).Tells rules acts index := by
  obtain ⟨task, given, houtcome, hgiven, hreturns, hevents⟩ := h.events_abandon hother hturn
  have hsteady := h.told
  rw [houtcome] at hsteady
  have hinfo : (sub.after turn).eventsAt .info = [] := by
    rw [Submission.eventsAt_eq hsteady hevents .info nofun]
    exact task.stage.info_farewell given _ _
  refine ⟨accounted.tellsNoEnd hreturns hother hinfo, ?_, .inl hinfo⟩
  refine Submission.tellsSupersession hsteady hevents (fun kind => ?_) fun hread => ?_
  · rw [accounted.supersedes, Submission.supersededIn_returns hreturns,
      Submission.lastSuspension?_after houtcome hturn, Option.some_inj]
    exact and_iff_right hother
  · have standing := h.standing houtcome
    obtain ⟨generation, filename, stage⟩ := task
    cases stage with
    | reading selected =>
      obtain rfl : selected = sub.file := standing.fits
      obtain ⟨files, rfl, rfl⟩ := Answer.at?_reading hgiven
      obtain ⟨hanswers, hstarted⟩ := h.events_reading houtcome rfl
      refine ⟨files, ?_, ?_⟩
      · rw [accounted.answers, Submission.answers_after hturn, hanswers]
        rfl
      · rw [hevents, hstarted, Stage.farewell_reading]
        rfl
    | _ => cases hread

end Returned

/-! ## The main result -/

/-- Whatever happens in whatever order, as long as the attempt has been renewed fewer than `2 ^ 64`
times, the log tells of every submission that has returned whether it was the one to end its
attempt, and how, or else what it was suspended for when it was superseded. -/
theorem log_tells_outcome (rules : Rules) {acts : List Act} {s : Session}
    (hrun : (Session.start rules).run? rules acts = some s)
    (few : acts.countP Act.renews < UInt64.size) {index : Nat} {sub : Submission}
    (hsub : s.submissions[index]? = some sub) {a : Attempt} (hreturns : sub.outcome = .returns a) :
    sub.Tells rules acts index := by
  have accounted := (Session.accounts_of_run? hrun few).present index sub hsub
  have life := (Session.kept_of_run? hrun few).lives sub (List.mem_of_getElem? hsub)
  cases life with
  | undisturbed h => exact h.tells hreturns accounted
  | superseded h _ hother hturn => exact h.tells_after hother hturn accounted

/-- The reset comes while the first submission uploads, so the log tells that its receipt was thrown
away, and of no end. -/
theorem lateScan_tells :
    ∃ s sub a, (Session.start .standard).run? .standard (Session.lateScan.take 4) = some s ∧
      s.submissions[0]? = some sub ∧ sub.outcome = .returns a ∧
      sub.Tells .standard (Session.lateScan.take 4) 0 ∧
      Session.Supersedes .standard (Session.lateScan.take 4) 0 .upload ∧
      sub.eventsAt .warn = [.uploadDiscarded 2 "a.jar"] ∧ sub.eventsAt .info = [] := by
  have hrun : (Session.start .standard).run? .standard (Session.lateScan.take 4) = some _ := rfl
  have tells := @log_tells_outcome .standard _ _ hrun (by decide) 0 _ rfl _ rfl
  have supersedes : Session.Supersedes .standard (Session.lateScan.take 4) 0 .upload :=
    ⟨_, .reset, _, ⟨Session.lateScan.take 2, [.resume 0 (.upload (.ok ⟨some "6"⟩))], rfl, rfl, rfl⟩,
      rfl, _, _, rfl, rfl, rfl, rfl⟩
  have hwarn := tells.supersession.duringUpload.mpr supersedes
  refine ⟨_, _, _, hrun, rfl, rfl, tells, supersedes, hwarn, ?_⟩
  exact tells.exclusive.resolve_right fun hnone => by cases hwarn.symm.trans hnone

end ScanClient
