import ScanClient.Proofs.Ending

/-!
# Outcomes of submissions

What is left, and what is seen last, when a submission has returned that no renewal has superseded:
the end that the reference gives for the answers it has heard. And it does return, whatever they
are.
-/

namespace ScanClient

/-! ## The latest publication -/

/-- A step leaves the attempt that has been published last. -/
def Move.Latest (a : Attempt) (move : Move) : Prop :=
  (publications move.effects).getLast?.getD a = move.attempt

theorem Advance.latest {rules : Rules} {task : Task} {a : Attempt} {stage : Stage}
    {given : stage.Answer} {move : Move} (h : Advance rules task a stage given move) :
    move.Latest a := by
  cases h <;> rfl

theorem Task.latest_resume (rules : Rules) (task : Task) (answer : task.stage.Answer)
    (a : Attempt) : (task.resume rules answer a).Latest a := by
  by_cases h : a.generation = task.generation
  · exact (task.advance_resume rules answer h).latest
  · obtain ⟨events, hmove⟩ := task.resume_superseded rules answer a h
    rw [hmove]
    simp only [Move.Latest, Move.final, publications_logs]
    rfl

theorem Opening.latest {rules : Rules} {file : ScanFile} {generation : UInt64} {move : Move}
    (h : Opening rules file generation move) (a : Attempt) : move.Latest a := by
  cases h with
  | rejected h => rfl
  | onDisk checked h => rfl
  | @inMemory contents move checked h advance =>
    simp only [Move.Latest, Move.after, Rules.announcement, List.cons_append, List.nil_append,
      publications_publish, publications_log, List.getLast?_cons, Option.getD_some]
    exact advance.latest

namespace Session

/-- The attempt is what has been published last. -/
def Latest (s : Session) : Prop := s.published.getLast? = some s.attempt

theorem Latest.publish {s s' : Session} (latest : s.Latest) {effects : List Effect}
    (hpublished : s'.published = s.published ++ publications effects)
    (h : (publications effects).getLast?.getD s.attempt = s'.attempt) : s'.Latest := by
  rw [Latest, hpublished, List.getLast?_append, show s.published.getLast? = _ from latest, ← h]
  cases (publications effects).getLast? <;> rfl

theorem Latest.step {rules : Rules} {s s' : Session} {act : Act} (latest : s.Latest)
    (h : s.step? rules act = some s') : s'.Latest := by
  cases act with
  | submit file =>
    cases h
    exact latest.publish rfl ((rules.opening_submit file s.attempt).latest s.attempt)
  | validate file =>
    cases h
    cases checked : rules.limits.check file.name file.size with
    | ok _ =>
      rw [validate_ok s checked]
      exact latest.publish rfl rfl
    | error rejection =>
      rw [validate_error s checked]
      exact latest.publish rfl rfl
  | reset =>
    cases h
    exact latest.publish rfl rfl
  | resume index answer =>
    obtain ⟨sub, turn, _, hturn, rfl⟩ := step?_resume h
    obtain ⟨task, given, _, _, rfl⟩ := Submission.turn?_eq_some hturn
    exact latest.publish rfl (task.latest_resume rules given s.attempt)

theorem latest_start (rules : Rules) : (start rules).Latest := rfl

theorem latest_of_run? {rules : Rules} {s : Session} {acts : List Act}
    (h : (start rules).run? rules acts = some s) : s.Latest :=
  run?_keeps (fun _ _ _ latest hstep => latest.step hstep) (latest_start rules) h

/-! ## The submission that is not superseded -/

/-- A session goes on with a submission that no renewal has superseded. -/
structure Carries (rules : Rules) (index : Nat) (sub : Submission) (s : Session) : Prop where
  sound : s.Sound
  timely : s.Timely
  led : s.Led rules
  latest : s.Latest
  submission : s.submissions[index]? = some sub
  begun : sub.begun = s.renewals

theorem carries_submit {rules : Rules} {s s' : Session} {file : ScanFile} (sound : s.Sound)
    (latest : s.Latest) (h : s.step? rules (.submit file) = some s') (timely : s'.Timely) :
    s'.Carries rules s.submissions.length
      (.begin file s'.renewals (rules.submit file s.attempt)) where
  sound := sound.step h
  timely := timely
  led := sound.led_renewal (renewal_of_step? rfl h)
  latest := latest.step h
  submission := submissions_submit h
  begun := rfl

namespace Carries

variable {rules : Rules} {index : Nat} {sub : Submission} {s s' : Session}

theorem undisturbed (carries : s.Carries rules index sub) :
    Undisturbed rules sub ∧ s.attempt = sub.left :=
  carries.led sub (List.mem_of_getElem? carries.submission) carries.begun

theorem step (carries : s.Carries rules index sub) {act : Act} (hact : act.renews = false)
    (h : s.step? rules act = some s') {sub' : Submission}
    (hsub' : s'.submissions[index]? = some sub') :
    s'.Carries rules index sub' ∧ sub'.file = sub.file ∧ sub'.begun = sub.begun := by
  obtain ⟨kept, hkept, hfile, hbegun⟩ := getElem?_of_step? h carries.submission
  rw [hsub'] at hkept
  cases hkept
  have latest := carries.latest.step h
  rcases step?_cases h with ⟨hrenews, _⟩ | ⟨i, answer, resumed, turn, _, hresumed, hturn, rfl⟩
  · rw [hact] at hrenews
    cases hrenews
  · exact ⟨⟨carries.sound.take hresumed hturn, carries.timely.take hresumed hturn,
      carries.sound.led_take carries.led carries.timely hresumed hturn, latest, hsub',
      hbegun.trans carries.begun⟩, hfile, hbegun⟩

theorem run {acts : List Act} (carries : s.Carries rules index sub)
    (hacts : ∀ act ∈ acts, act.renews = false) (h : s.run? rules acts = some s') :
    ∃ sub', s'.Carries rules index sub' ∧ sub'.file = sub.file ∧ sub'.begun = sub.begun := by
  induction acts generalizing s sub with
  | nil =>
    cases h
    exact ⟨sub, carries, rfl, rfl⟩
  | cons act acts ih =>
    obtain ⟨next, hnext, hrun⟩ := run?_cons.mp h
    obtain ⟨sub₁, hsub₁, _⟩ := getElem?_of_step? hnext carries.submission
    obtain ⟨carries₁, hfile₁, hbegun₁⟩ :=
      carries.step (hacts act List.mem_cons_self) hnext hsub₁
    obtain ⟨sub₂, carries₂, hfile₂, hbegun₂⟩ :=
      ih carries₁ (fun act hact => hacts act (List.mem_cons_of_mem _ hact)) hrun
    exact ⟨sub₂, carries₂, hfile₂.trans hfile₁, hbegun₂.trans hbegun₁⟩

/-- The submission that is carried can go on with what it is told. -/
theorem own (carries : s.Carries rules index sub) {task : Task}
    (houtcome : sub.outcome = .waits task) (told : Told) :
    ∃ turn, s.step? rules (.resume index (told.answer task.stage)) =
        some (s.take index sub turn) ∧
      (s.take index sub turn).Carries rules index (sub.after turn) ∧
      turn.cause = some (task.stage, told.answer task.stage) := by
  obtain ⟨given, hgiven⟩ : ∃ given, (told.answer task.stage).at? rules task.stage = some given := by
    cases task.stage <;> exact ⟨_, rfl⟩
  let turn : Turn :=
    ⟨some (task.stage, told.answer task.stage), s.renewals, task.resume rules given s.attempt⟩
  have hturn : sub.turn? rules s.renewals s.attempt (told.answer task.stage) = some turn := by
    simp only [Submission.turn?, houtcome, hgiven, Option.map_some]
    rfl
  have hstep : s.step? rules (.resume index (told.answer task.stage)) =
      some (s.take index sub turn) := by
    simp only [step?, carries.submission, hturn, Option.map_some]
  refine ⟨turn, hstep, (carries.step rfl hstep ?_).1, rfl⟩
  rw [getElem?_take s index index sub turn carries.submission, if_pos rfl]

/-- And it returns when it has gone on often enough. -/
theorem returns (carries : s.Carries rules index sub) {told : Told} (heard : sub.Heard told)
    {fuel : Nat} (hfuel : 2 * rules.policy.budget + 2 < sub.turns.length + fuel) :
    ∃ acts s' sub' a, (∀ act ∈ acts, ∃ answer, act = .resume index answer) ∧
      s.run? rules acts = some s' ∧ s'.submissions[index]? = some sub' ∧ sub'.Heard told ∧
      sub'.outcome = .returns a := by
  -- each step adds to the steps, of which there is a greatest number
  induction fuel generalizing s sub with
  | zero => exact absurd carries.undisturbed.1.length_le (Nat.not_le_of_lt hfuel)
  | succ fuel ih =>
    cases houtcome : sub.outcome with
    | returns a =>
      exact ⟨[], s, sub, a, fun _ h => (nomatch h), rfl, carries.submission, heard, houtcome⟩
    | waits task =>
      obtain ⟨turn, hstep, carries', hcause⟩ := carries.own houtcome told
      have heard' : (sub.after turn).Heard told := by
        intro other hother stage answer h
        rcases List.mem_append.mp hother with hother | hother
        · exact heard other hother stage answer h
        · rw [List.mem_singleton.mp hother, hcause] at h
          cases h
          rfl
      have hfuel' :
          2 * rules.policy.budget + 2 < (sub.after turn).turns.length + fuel := by
        simp only [Submission.after, List.length_append, List.length_singleton]
        omega
      obtain ⟨acts, s', sub', a, hacts, hrun, hsub', hheard, hreturns⟩ :=
        ih carries' heard' hfuel'
      refine ⟨_ :: acts, s', sub', a, ?_, run?_cons.mpr ⟨_, hstep, hrun⟩, hsub', hheard, hreturns⟩
      intro act hact
      rcases List.mem_cons.mp hact with rfl | hact
      · exact ⟨_, rfl⟩
      · exact hacts act hact

end Carries

end Session

/-! ## The main result -/

/-- In a session that has come to `s₀` a file is submitted, and then other submissions go on, but
the attempt is not renewed. All the while the submission has made no more steps than a read, an
upload, and the polls and waits of the policy take; it can go on to its end with what it is told;
and when it has returned, it has returned the attempt the reference gives for that, which is also
the attempt that is there and was published last, after as many polls as the reference says and the
waits between them. Other submissions that are in flight, if there are any, must not be so old that
generations have come round since. -/
theorem submission_ends_as_told (rules : Rules) {acts : List Act} {s₀ s₁ s : Session}
    (hrun : (Session.start rules).run? rules acts = some s₀) {file : ScanFile}
    (hsubmit : s₀.step? rules (.submit file) = some s₁) (timely : s₁.Timely) {since : List Act}
    (hsince : ∀ act ∈ since, act.renews = false) (hs : s₁.run? rules since = some s)
    (told : Told) :
    ∃ sub, s.submissions[s₀.submissions.length]? = some sub ∧
      sub.turns.length ≤ 2 * rules.policy.budget + 2 ∧
      (sub.Heard told →
        (∃ rest s' sub' a,
          (∀ act ∈ rest, ∃ answer, act = .resume s₀.submissions.length answer) ∧
          s.run? rules rest = some s' ∧ s'.submissions[s₀.submissions.length]? = some sub' ∧
          sub'.Heard told ∧ sub'.outcome = .returns a) ∧
        ∀ a, sub.outcome = .returns a →
          let ending := told.ending rules file
          a = ending.attempt rules file s₁.attempt.generation ∧ s.attempt = a ∧
            s.published.getLast? = some a ∧ sub.pollCount = ending.polls ∧
            sub.waitCount = ending.polls - 1) := by
  have sound := Session.sound_of_run? hrun
  -- the submission is carried from its beginning to `s`, where it has been left undisturbed
  have carries₁ := Session.carries_submit sound (Session.latest_of_run? hrun) hsubmit timely
  obtain ⟨sub, carries, hfile, hbegun⟩ := carries₁.run hsince hs
  obtain ⟨undisturbed, hleft⟩ := carries.undisturbed
  refine ⟨sub, carries.submission, undisturbed.length_le, fun heard => ⟨?_, ?_⟩⟩
  · exact carries.returns heard (Nat.lt_of_lt_of_le (Nat.lt_succ_self _) (Nat.le_add_left _ _))
  · intro a hreturns
    have hgeneration : s₁.attempt.generation = UInt64.ofNat sub.begun := by
      rw [hbegun]
      exact carries₁.sound.generation
    have foretold := undisturbed.foretold heard
    rw [Move.Foretold, show sub.last.outcome = _ from hreturns] at foretold
    obtain ⟨ha, hending⟩ := foretold
    rw [show sub.file = file from hfile, ← hgeneration] at hending
    have hattempt : s.attempt = a := hleft.trans ha.symm
    obtain ⟨hpolls, hwaits⟩ := undisturbed.attemptCount
    have hcount : sub.left.attemptCount = (told.ending rules file).polls := by
      rw [← hattempt.symm.trans hleft, hending]
      rfl
    refine ⟨hending, hattempt, ?_, hpolls.trans hcount, ?_⟩
    · rw [← hattempt]
      exact carries.latest
    · rw [hwaits, hcount]

/-- A scan that is over when it is polled for the second time. -/
def sampleAnswers : Told where
  files := .ok ⟨[], []⟩
  receipt := .ok ⟨some "7"⟩
  response number := if number = 1 then .ok {} else .ok sampleResponse

/-- A submission that is told so completes, after two polls and a wait. -/
theorem sampleFile_ends_as_told :
    ∃ s₁ rest s sub, (Session.start .standard).step? .standard (.submit sampleFile) = some s₁ ∧
      s₁.Timely ∧ (∀ act ∈ rest, act.renews = false) ∧ s₁.run? .standard rest = some s ∧
      s.submissions[0]? = some sub ∧ sub.Heard sampleAnswers ∧
      sub.outcome = .returns s.attempt ∧ s.attempt.phase = .completed ∧
      s.published.getLast? = some s.attempt ∧ sub.pollCount = 2 ∧ sub.waitCount = 1 := by
  have hrun : (Session.start .standard).run? .standard [] = some _ := rfl
  have hsubmit : (Session.start .standard).step? .standard (.submit sampleFile) = some _ := rfl
  have timely : (Session.submit .standard sampleFile (Session.start .standard)).Timely :=
    Session.timely_of_lt (by decide)
  have hnone : ∀ act ∈ ([] : List Act), act.renews = false := fun _ h => nomatch h
  obtain ⟨first, hfirst, _, hends⟩ := submission_ends_as_told .standard hrun hsubmit timely hnone
    rfl sampleAnswers
  have heard : first.Heard sampleAnswers := by
    cases hfirst
    intro turn hturn stage answer hcause
    cases List.mem_singleton.mp hturn
    cases hcause
  obtain ⟨⟨rest, s, sub, a, hrest, hs, hsub, heard, hreturns⟩, _⟩ := hends heard
  have hquiet : ∀ act ∈ rest, act.renews = false := by
    intro act hact
    obtain ⟨answer, rfl⟩ := hrest act hact
    rfl
  obtain ⟨same, hsame, _, hends⟩ := submission_ends_as_told .standard hrun hsubmit timely hquiet
    hs sampleAnswers
  rw [hsub] at hsame
  cases hsame
  obtain ⟨hending, hattempt, hlatest, hpolls, hwaits⟩ := (hends heard).2 a hreturns
  have hphase : a.phase = .completed := by
    rw [hending]
    decide +kernel
  refine ⟨_, rest, s, sub, hsubmit, timely, hquiet, hs, hsub, heard, ?_, ?_, ?_, ?_, ?_⟩
  · rw [hattempt]
    exact hreturns
  · rw [hattempt]
    exact hphase
  · rw [hattempt]
    exact hlatest
  · rw [hpolls]
    decide +kernel
  · rw [hwaits]
    decide +kernel

end ScanClient
