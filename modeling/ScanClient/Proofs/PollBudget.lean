import ScanClient.Proofs.Consistency
import ScanClient.Proofs.Outcome
import ScanClient.Proofs.Return

/-!
# The budget of polls

Whoever watches an attempt sees how many polls have been made and how many are allowed. The first
number is that of the polls its submission has sent. The second is the one of the policy, whereas a
submission goes by a budget of at least one poll. So a submission never sends more polls than are
shown as allowed, unless none are: then it sends one all the same.
-/

namespace ScanClient

/-! ## What the attempt counts -/

section Steps

variable {rules : Rules} {file : ScanFile} {generation : UInt64}

/-- What a submission of a file may leave the attempt with: the file, and no more polls than it may
make. -/
def Rules.Bounds (rules : Rules) (file : ScanFile) (a : Attempt) : Prop :=
  a.file = some file.info ∧ a.attemptCount ≤ rules.policy.budget

theorem Standing.bounds_left {task : Task} {left : Attempt}
    (standing : Standing rules file generation task left) : rules.Bounds file left := by
  have hfits := standing.fits
  rw [standing.left_eq]
  cases hstage : task.stage with
  | reading selected => exact ⟨rfl, Nat.zero_le _⟩
  | uploading contents => exact ⟨rfl, Nat.zero_le _⟩
  | polling scanId number =>
    rw [hstage] at hfits
    exact ⟨rfl, hfits.2.2⟩
  | waiting scanId number =>
    rw [hstage] at hfits
    exact ⟨rfl, Nat.le_of_lt hfits.2.2⟩

theorem Standing.bounds {task : Task} {left : Attempt}
    (standing : Standing rules file generation task left) {given : task.stage.Answer} {move : Move}
    (h : Advance rules task left task.stage given move) : rules.Bounds file move.attempt := by
  obtain ⟨hfile, hcount⟩ := standing.bounds_left
  obtain ⟨taskGeneration, filename, stage⟩ := task
  cases h with
  | fails h => exact ⟨hfile, hcount⟩
  | uploads selected contents => exact ⟨hfile, hcount⟩
  | accepted contents h => exact ⟨hfile, Nat.le_max_left _ _⟩
  | pauses scanId h room => exact ⟨hfile, hcount⟩
  | polls scanId room => exact ⟨hfile, room⟩
  | completes number status h => exact ⟨hfile, hcount⟩

/-- What a step publishes is the attempt as it leaves it, or one with as many polls as before. -/
theorem Advance.published {task : Task} {a b : Attempt} {stage : Stage} {given : stage.Answer}
    {move : Move} (h : Advance rules task a stage given move)
    (hb : b ∈ publications move.effects) :
    b = move.attempt ∨ b.file = a.file ∧ b.attemptCount = a.attemptCount := by
  cases h with
  | fails h => exact .inl (List.mem_singleton.mp hb)
  | uploads selected contents => exact .inl (List.mem_singleton.mp hb)
  | accepted contents h =>
    -- the scan that was accepted comes before its first poll
    cases List.mem_cons.mp hb with
    | inl hscan =>
      rw [hscan]
      exact .inr ⟨rfl, rfl⟩
    | inr hpoll => exact .inl (List.mem_singleton.mp hpoll)
  | pauses scanId h room => cases hb
  | polls scanId room => exact .inl (List.mem_singleton.mp hb)
  | completes number status h => exact .inl (List.mem_singleton.mp hb)

theorem Standing.bounds_published {task : Task} {left : Attempt}
    (standing : Standing rules file generation task left) {given : task.stage.Answer} {move : Move}
    (h : Advance rules task left task.stage given move) :
    ∀ a ∈ publications move.effects, rules.Bounds file a := by
  intro a ha
  cases h.published ha with
  | inl hattempt =>
    rw [hattempt]
    exact standing.bounds h
  | inr hsame =>
    rw [Rules.Bounds, hsame.1, hsame.2]
    exact standing.bounds_left

theorem Rules.bounds_begun (rules : Rules) (file : ScanFile) (generation : UInt64) :
    rules.Bounds file (rules.begun file generation) := ⟨rfl, Nat.zero_le _⟩

theorem Opening.bounds {move : Move} (h : Opening rules file generation move) :
    rules.Bounds file move.attempt := by
  cases h with
  | rejected h => exact rules.bounds_begun file generation
  | inMemory checked h advance =>
    have hmove := (rules.standing_begun generation checked).bounds advance
    exact hmove
  | onDisk checked h => exact rules.bounds_begun file generation

theorem Opening.bounds_published {move : Move} (h : Opening rules file generation move) :
    ∀ a ∈ publications move.effects, rules.Bounds file a := by
  have hbegun := rules.bounds_begun file generation
  intro a ha
  cases h with
  | rejected h =>
    rcases List.mem_cons.mp ha with rfl | ha
    · exact hbegun
    · rw [List.mem_singleton.mp ha]
      exact hbegun
  | inMemory checked h advance =>
    rcases List.mem_cons.mp ha with rfl | ha
    · exact hbegun
    · exact (rules.standing_begun generation checked).bounds_published advance a ha
  | onDisk checked h =>
    rw [List.mem_singleton.mp ha]
    exact hbegun

theorem Undisturbed.bounds {sub : Submission} (h : Undisturbed rules sub) :
    rules.Bounds sub.file sub.left := by
  cases h with
  | begins file h => exact (rules.opening_submit file _).bounds
  | goesOn h hturn =>
    obtain ⟨task, given, move, _, standing, _, advance, rfl⟩ := h.advance hturn
    exact standing.bounds advance

end Steps

variable {rules : Rules}

/-- No value that is ever published counts more polls than the budget. -/
theorem Shown.attemptCount_le {a : Attempt} (h : Shown rules a) :
    a.attemptCount ≤ rules.policy.budget := by
  cases h with
  | fresh generation => exact Nat.zero_le _
  | begun file generation => exact Nat.zero_le _
  | selected file generation => exact Nat.zero_le _
  | rejected file generation rejection => exact Nat.zero_le _
  | @turn sub turn a h hturn ha =>
    have hbounds := h.turns (P := fun turn => ∀ a ∈ publications turn.move.effects,
      rules.Bounds sub.file a) (fun _ opening => opening.bounds_published)
      (fun _ _ _ _ _ standing _ advance => standing.bounds_published advance)
    exact (hbounds turn hturn a ha).2

/-- A submission that was superseded has sent no poll with its last step. -/
theorem Life.pollCount_le {sub : Submission} (life : Life rules sub) :
    sub.pollCount ≤ rules.policy.budget := by
  have hcount : ∀ {sub : Submission}, Undisturbed rules sub →
      sub.pollCount ≤ rules.policy.budget := by
    intro sub undisturbed
    rw [undisturbed.attemptCount.1]
    exact undisturbed.bounds.2
  cases life with
  | undisturbed h => exact hcount h
  | superseded h hlt hgeneration hturn =>
    obtain ⟨_, _, _, _, _, rfl⟩ := h.abandon hgeneration hturn
    rw [Submission.pollCount_after]
    exact hcount h

/-! ## The end of the polls -/

/-- The service finds a scan unfinished when the submission waits for its answer to a poll. If it
was the last poll of the budget, the attempt ends for lack of polls, and else the submission goes
on. -/
theorem Standing.unfinished {file : ScanFile} {generation : UInt64} {task : Task} {left : Attempt}
    (standing : Standing rules file generation task left) {scanId : String} {number : Nat}
    {response : Response} (hstatus : response.status = .pending ∨ response.status = .unknown)
    {move : Move} (hstage : task.stage = .polling scanId number)
    (h : Advance rules task left (.polling scanId number) (.ok response) move) :
    left.attemptCount = number ∧
      (number < rules.policy.budget ∧ move.attempt = left ∧ move.effects = [] ∨
      number = rules.policy.budget ∧
        move = .fails task.generation (.timeout rules.policy.budget) left) := by
  have hfits := standing.fits
  have hleft := standing.left_eq
  rw [hstage] at hfits hleft
  refine ⟨by rw [hleft]; rfl, ?_⟩
  cases h with
  | @fails _ _ e h =>
    have hfailure : (if number < rules.policy.budget then none
        else some (.timeout rules.policy.budget)) = some e := by
      rcases hstatus with hstatus | hstatus <;> simpa only [Stage.failure?, hstatus] using h
    obtain ⟨full, he⟩ := Option.ite_none_left_eq_some.mp hfailure
    cases he
    have := hfits.2.2
    exact .inr ⟨by omega, rfl⟩
  | pauses scanId h room => exact .inl ⟨room, rfl, rfl⟩
  | completes number status h =>
    rw [status] at hstatus
    rcases hstatus with hstatus | hstatus <;> cases hstatus

namespace Session

/-- The submission has the attempt, and waits for the answer to a poll of this number. -/
structure Polling (s : Session) (index number : Nat) (sub : Submission) (task : Task) : Prop where
  submission : s.submissions[index]? = some sub
  begun : sub.begun = s.renewals
  outcome : sub.outcome = .waits task
  stage : ∃ scanId, task.stage = .polling scanId number

/-- The polls have run out: the attempt has failed, after as many polls as the budget is, with an
error that tells their number. -/
structure OutOfPolls (policy : PollPolicy) (a : Attempt) : Prop where
  phase : a.phase = .failed
  error : a.error = some (ScanError.timeout a.attemptCount).recorded
  attemptCount : a.attemptCount = max 1 a.maxAttempts
  maxAttempts : a.maxAttempts = policy.maxAttempts

theorem Kept.unfinished {s : Session} (kept : s.Kept rules) {index number : Nat} {sub : Submission}
    {task : Task} (polling : s.Polling index number sub task) {response : Response}
    (hstatus : response.status = .pending ∨ response.status = .unknown) :
    ∃ s', s.step? rules (.resume index (.poll (.ok response))) = some s' ∧
      s.attempt.attemptCount = number ∧
      (number < max 1 rules.policy.maxAttempts ∧ s'.attempt = s.attempt ∧
          s'.published = s.published ∨
        number = max 1 rules.policy.maxAttempts ∧ OutOfPolls rules.policy s'.attempt ∧
          s'.published = s.published ++ [s'.attempt]) := by
  obtain ⟨hsub, hbegun, houtcome, scanId, hstage⟩ := polling
  obtain ⟨taskGeneration, filename, stage⟩ := task
  cases hstage
  have hanswer : ((Answer.poll (.ok response)).at? rules (.polling scanId number)).isSome := rfl
  obtain ⟨s', hstep⟩ := Option.isSome_iff_exists.mp (isSome_step?_resume hsub houtcome hanswer)
  refine ⟨s', hstep, ?_⟩
  obtain ⟨other, turn, hother, hturn, rfl⟩ := step?_resume hstep
  cases hsub.symm.trans hother
  obtain ⟨undisturbed, hleft⟩ := kept.led sub (List.mem_of_getElem? hsub) hbegun
  rw [hleft] at hturn ⊢
  obtain ⟨task, given, move, hwaits, standing, hgiven, advance, rfl⟩ := undisturbed.advance hturn
  cases houtcome.symm.trans hwaits
  cases Option.some.inj hgiven
  obtain ⟨hcount, ⟨room, hattempt, heffects⟩ | ⟨hnumber, hmove⟩⟩ :=
    standing.unfinished hstatus rfl advance
  · refine ⟨hcount, .inl ⟨room, hattempt, ?_⟩⟩
    rw [take, heffects]
    exact List.append_nil _
  · refine ⟨hcount, .inr ⟨hnumber, ?_, ?_⟩⟩
    · rw [take, hmove]
      have hmax := standing.consistent_left.1.maxAttempts_eq
      refine ⟨rfl, ?_, ?_, hmax⟩
      · rw [← hnumber, ← hcount]
        rfl
      · show sub.left.attemptCount = max 1 sub.left.maxAttempts
        rw [hmax]
        exact hcount.trans hnumber
    · rw [take, hmove]
      rfl

end Session

/-! ## The main result -/

/-- Whatever happens in whatever order, as long as the attempt has been renewed fewer than `2 ^ 64`
times, every value of it that has been published shows the number of polls that the policy allows,
and no more polls than these, if the policy allows any, and else no more than one. Submissions send
no more polls than that either. When the service finds the scan unfinished, a submission that has
the attempt goes on while there are polls left, and after the last of them the attempt fails with an
error that tells their number, which is the one that it shows. -/
theorem published_budget (rules : Rules) {acts : List Act} {s : Session}
    (hrun : (Session.start rules).run? rules acts = some s)
    (few : acts.countP Act.renews < UInt64.size) :
    (∀ a ∈ s.published, a.maxAttempts = rules.policy.maxAttempts ∧
      a.attemptCount ≤ max 1 a.maxAttempts ∧
      (1 ≤ rules.policy.maxAttempts → a.attemptCount ≤ a.maxAttempts) ∧
      (a.phase = .polling → a.progressText = Attempt.pollText a.attemptCount a.maxAttempts)) ∧
    (∀ sub ∈ s.submissions, sub.pollCount ≤ max 1 rules.policy.maxAttempts ∧
      (sub.begun = s.renewals → s.attempt.attemptCount = sub.pollCount)) ∧
    ∀ {index number sub task}, s.Polling index number sub task → ∀ {response : Response},
      response.status = .pending ∨ response.status = .unknown →
      ∃ s', s.step? rules (.resume index (.poll (.ok response))) = some s' ∧
        s.attempt.attemptCount = number ∧
        (number < max 1 rules.policy.maxAttempts ∧ s'.attempt = s.attempt ∧
            s'.published = s.published ∨
          number = max 1 rules.policy.maxAttempts ∧
            Session.OutOfPolls rules.policy s'.attempt ∧
            (1 ≤ rules.policy.maxAttempts → s'.attempt.attemptCount = s'.attempt.maxAttempts) ∧
            s'.published = s.published ++ [s'.attempt]) := by
  have kept := Session.kept_of_run? hrun few
  refine ⟨fun a ha => ?_, fun sub hsub => ⟨(kept.lives sub hsub).pollCount_le, ?_⟩, ?_⟩
  · have hmax := (kept.published a ha).consistent.maxAttempts_eq
    have hcount : a.attemptCount ≤ max 1 rules.policy.maxAttempts :=
      (kept.published a ha).attemptCount_le
    rw [hmax]
    refine ⟨rfl, hcount, fun hpositive => by omega, fun hphase => ?_⟩
    rw [Attempt.progressText, hphase, hmax]
  · intro hbegun
    obtain ⟨undisturbed, hleft⟩ := kept.led sub hsub hbegun
    rw [hleft, undisturbed.attemptCount.1]
  · intro index number sub task polling response hstatus
    obtain ⟨s', hstep, hcount, hgoesOn | ⟨hnumber, out, hpublished⟩⟩ :=
      kept.unfinished polling hstatus
    · exact ⟨s', hstep, hcount, .inl hgoesOn⟩
    · refine ⟨s', hstep, hcount, .inr ⟨hnumber, out, fun hpositive => ?_, hpublished⟩⟩
      rw [out.attemptCount, out.maxAttempts]
      omega

/-- A scan that is still unfinished at its second poll. -/
def Session.longScan : List Act :=
  [.submit sampleFile, .resume 0 (.upload (.ok ⟨some "7"⟩)), .resume 0 (.poll (.ok {})),
    .resume 0 .elapsed]

/-- With two polls allowed it ends there. -/
theorem longScan_outOfPolls :
    ∃ s s', (Session.start ⟨⟨10, 2⟩, .standard⟩).run? ⟨⟨10, 2⟩, .standard⟩ Session.longScan =
        some s ∧
      Session.longScan.countP Act.renews < UInt64.size ∧
      (∀ a ∈ s.published, a.attemptCount ≤ a.maxAttempts) ∧
      s.step? ⟨⟨10, 2⟩, .standard⟩ (.resume 0 (.poll (.ok {}))) = some s' ∧
      s'.attempt.attemptCount = 2 ∧ s'.attempt.maxAttempts = 2 ∧
      s'.attempt.error = some ⟨.timeout, "scan timed out after 2 status checks"⟩ := by
  have hrun : (Session.start ⟨⟨10, 2⟩, .standard⟩).run? ⟨⟨10, 2⟩, .standard⟩ Session.longScan =
      some _ := rfl
  obtain ⟨hpublished, _, hends⟩ := published_budget ⟨⟨10, 2⟩, .standard⟩ hrun (by decide)
  obtain ⟨s', hstep, _, ⟨hroom, _⟩ | ⟨_, out, hspent, _⟩⟩ :=
    @hends 0 2 _ _ ⟨rfl, rfl, rfl, "7", rfl⟩ {} (.inr rfl)
  · exact absurd hroom (by decide)
  · have hmax : s'.attempt.maxAttempts = 2 := out.maxAttempts
    have hcount : s'.attempt.attemptCount = 2 := (hspent (by decide)).trans hmax
    refine ⟨_, s', hrun, by decide, fun a ha => (hpublished a ha).2.2.1 (by decide), hstep, hcount,
      hmax, ?_⟩
    rw [out.error, hcount]
    decide +kernel

/-- With none allowed it is polled for once, so that the first of no polls is shown. -/
theorem poll_beyond_budget :
    ∃ s, (Session.start ⟨⟨10, 0⟩, .standard⟩).run? ⟨⟨10, 0⟩, .standard⟩
        (Session.longScan.take 3) = some s ∧
      (∃ a ∈ s.published, a.maxAttempts < a.attemptCount ∧
        a.progressText = "Scanning file... (attempt 1/0)") ∧
      s.attempt.attemptCount = 1 ∧ s.attempt.maxAttempts = 0 ∧
      s.attempt.error = some ⟨.timeout, "scan timed out after 1 status checks"⟩ := by
  have hseen : ((Session.start ⟨⟨10, 0⟩, .standard⟩).run? ⟨⟨10, 0⟩, .standard⟩
      (Session.longScan.take 3)).map (fun s =>
        (s.published.any fun a => a.maxAttempts < a.attemptCount ∧
          a.progressText = "Scanning file... (attempt 1/0)",
        s.attempt.attemptCount, s.attempt.maxAttempts, s.attempt.error)) =
      some (true, 1, 0, some ⟨.timeout, "scan timed out after 1 status checks"⟩) := by
    decide +kernel
  obtain ⟨s, hrun, hseen⟩ := Option.map_eq_some_iff.mp hseen
  simp only [Prod.mk.injEq, List.any_eq_true, decide_eq_true_eq] at hseen
  exact ⟨s, hrun, hseen⟩

end ScanClient
