import ScanClient.Proofs.Transitions

/-!
# Returns

A submission is suspended for a read, an upload, and the polls and waits of the policy, each time
until an answer comes, and then it returns. What it returns is the attempt of that moment: its own,
which is over then, or one that others have made since without it.
-/

namespace ScanClient

/-- What a submission is suspended for. -/
inductive Suspension where
  | read
  | upload
  | poll
  | wait
  deriving DecidableEq, Repr

/-- How often a submission may be suspended so. -/
def Suspension.limit (policy : PollPolicy) : Suspension → Nat
  | .read | .upload => 1
  | .poll => max 1 policy.maxAttempts
  | .wait => max 1 policy.maxAttempts - 1

def Stage.suspension : Stage → Suspension
  | .reading _ => .read
  | .uploading _ => .upload
  | .polling _ _ => .poll
  | .waiting _ _ => .wait

/-- How often a submission that waits has been suspended at most. -/
def Stage.tally : Stage → Suspension → Nat
  | _, .read => 1
  | .reading _, .upload => 0
  | _, .upload => 1
  -- polls are numbered from one, and a wait has the number of the poll before it
  | .polling _ number, .poll | .waiting _ number, .poll => number
  | _, .poll => 0
  | .polling _ number, .wait => number - 1
  | .waiting _ number, .wait => number
  | _, .wait => 0

/-- The suspension a step ends with, unless the submission returns. -/
def Outcome.suspension? : Outcome → Option Suspension
  | .waits task => some task.stage.suspension
  | .returns _ => none

namespace Submission

/-- All suspensions of a submission, the one it is in included. -/
def suspensions (sub : Submission) : List Suspension :=
  sub.turns.filterMap fun turn => turn.move.outcome.suspension?

/-- The number of answers that have come for a submission. -/
def answered (sub : Submission) : Nat := sub.turns.countP (·.cause.isSome)

/-- The generation that a submission began. -/
def generation (sub : Submission) : UInt64 := UInt64.ofNat sub.begun

theorem suspensions_begin (file : ScanFile) (begun : Nat) (move : Move) :
    (begin file begun move).suspensions = move.outcome.suspension?.toList := by
  simp only [suspensions, begin]
  cases h : move.outcome.suspension? <;> simp only [List.filterMap_cons, h] <;> rfl

theorem suspensions_after (sub : Submission) (turn : Turn) :
    (sub.after turn).suspensions =
      sub.suspensions ++ turn.move.outcome.suspension?.toList := by
  simp only [suspensions, after, List.filterMap_append]
  cases h : turn.move.outcome.suspension? <;> simp only [List.filterMap_cons, h] <;> rfl

theorem answered_after {rules : Rules} {sub : Submission} {renewals : Nat} {a : Attempt}
    {answer : Answer} {turn : Turn} (h : sub.turn? rules renewals a answer = some turn) :
    (sub.after turn).answered = sub.answered + 1 := by
  obtain ⟨task, given, _, _, rfl⟩ := turn?_eq_some h
  simp only [answered, after, List.countP_append]
  rfl

end Submission

/-! ## How often a submission is suspended -/

theorem Suspension.length_eq (suspensions : List Suspension) :
    suspensions.length = suspensions.count .read + suspensions.count .upload +
      suspensions.count .poll + suspensions.count .wait := by
  induction suspensions with
  | nil => rfl
  | cons suspension suspensions ih =>
    simp only [List.length_cons, List.count_cons, ih]
    cases suspension <;> simp <;> omega

/-- One suspension is counted as often as it is of the kind. -/
theorem Outcome.count_waits (task : Task) (kind : Suspension) :
    (waits task).suspension?.toList.count kind = if task.stage.suspension = kind then 1 else 0 := by
  simp only [suspension?, Option.toList_some, List.count_singleton, beq_iff_eq]

section Tally

variable {rules : Rules} {file : ScanFile}

theorem Stage.Fits.tally_le {stage : Stage} (h : stage.Fits rules file) (kind : Suspension) :
    stage.tally kind ≤ kind.limit rules.policy := by
  cases stage with
  | reading selected => cases kind <;> simp only [tally, Suspension.limit] <;> omega
  | uploading contents => cases kind <;> simp only [tally, Suspension.limit] <;> omega
  | polling scanId number =>
    obtain ⟨_, _, hle⟩ := h
    rw [PollPolicy.budget] at hle
    cases kind <;> simp only [tally, Suspension.limit] <;> omega
  | waiting scanId number =>
    obtain ⟨_, _, hlt⟩ := h
    rw [PollPolicy.budget] at hlt
    cases kind <;> simp only [tally, Suspension.limit] <;> omega

/-- The tally counts the suspension that the submission is in. -/
theorem Stage.Fits.count_le_tally {stage : Stage} (h : stage.Fits rules file)
    (kind : Suspension) : (if stage.suspension = kind then 1 else 0) ≤ stage.tally kind := by
  cases stage with
  | reading selected => cases kind <;> simp [tally, suspension]
  | uploading contents => cases kind <;> simp [tally, suspension]
  | polling scanId number =>
    have hpos : 1 ≤ number := h.2.1
    cases kind <;> simp [tally, suspension, hpos]
  | waiting scanId number =>
    have hpos : 1 ≤ number := h.2.1
    cases kind <;> simp [tally, suspension, hpos]

/-- A step that ends with a suspension adds it to the tally. -/
theorem Standing.tally_advance {generation : UInt64} {task next : Task} {left : Attempt}
    (standing : Standing rules file generation task left) {given : task.stage.Answer} {move : Move}
    (h : Advance rules task left task.stage given move) (hnext : move.outcome = .waits next)
    (kind : Suspension) :
    task.stage.tally kind + (if next.stage.suspension = kind then 1 else 0) ≤
      next.stage.tally kind := by
  obtain ⟨taskGeneration, filename, stage⟩ := task
  have hfits : stage.Fits rules file := standing.fits
  cases h with
  | fails h => cases hnext
  | uploads selected contents =>
    cases hnext
    cases kind <;> simp [Stage.tally, Stage.suspension]
  | accepted contents h =>
    cases hnext
    cases kind <;> simp [Stage.tally, Stage.suspension]
  | pauses scanId h room =>
    cases hnext
    -- the wait catches up with the polls
    have hpos := hfits.2.1
    cases kind <;> simp [Stage.tally, Stage.suspension]
    omega
  | polls scanId room =>
    cases hnext
    cases kind <;> simp [Stage.tally, Stage.suspension]
  | completes number status h => cases hnext

end Tally

theorem Undisturbed.count_le_tally {rules : Rules} {sub : Submission} (h : Undisturbed rules sub)
    {task : Task} (houtcome : sub.outcome = .waits task) (kind : Suspension) :
    sub.suspensions.count kind ≤ task.stage.tally kind := by
  induction h generalizing task with
  | @begins file begun a h =>
    have hmove : (rules.submit file a).outcome = .waits task := houtcome
    rw [Submission.suspensions_begin, hmove, Outcome.count_waits]
    exact (Undisturbed.begins file h).standing houtcome |>.fits.count_le_tally kind
  | goesOn h hturn ih =>
    obtain ⟨before, given, move, hbefore, standing, _, advance, rfl⟩ := h.advance hturn
    have hmove : move.outcome = .waits task := houtcome
    rw [Submission.suspensions_after, List.count_append]
    simp only [hmove, Outcome.count_waits]
    have hbound := ih hbefore
    have hstep := standing.tally_advance advance hmove kind
    omega

/-- A submission that has returned is not suspended again. -/
theorem Submission.suspensions_returns {sub : Submission} {turn : Turn} {a : Attempt}
    (h : turn.move.outcome = .returns a) : (sub.after turn).suspensions = sub.suspensions := by
  rw [suspensions_after, h]
  exact List.append_nil _

theorem Undisturbed.count_le_limit {rules : Rules} {sub : Submission} (h : Undisturbed rules sub)
    (kind : Suspension) : sub.suspensions.count kind ≤ kind.limit rules.policy := by
  cases houtcome : sub.outcome with
  | waits task =>
    exact Nat.le_trans (h.count_le_tally houtcome kind)
      ((h.standing houtcome).fits.tally_le kind)
  | returns a =>
    -- the last step adds nothing, and before it the submission was waiting
    cases h with
    | @begins file begun a' h =>
      have hmove : (rules.submit file a').outcome = .returns a := houtcome
      rw [Submission.suspensions_begin, hmove]
      exact Nat.zero_le _
    | goesOn h hturn =>
      obtain ⟨before, given, move, hbefore, standing, _, _, rfl⟩ := h.advance hturn
      rw [Submission.suspensions_returns houtcome]
      exact Nat.le_trans (h.count_le_tally hbefore kind) (standing.fits.tally_le kind)

theorem Life.count_le_limit {rules : Rules} {sub : Submission} (life : Life rules sub)
    (kind : Suspension) : sub.suspensions.count kind ≤ kind.limit rules.policy := by
  cases life with
  | undisturbed h => exact h.count_le_limit kind
  | superseded h hlt hgeneration hturn =>
    obtain ⟨_, _, events, _, _, rfl⟩ := h.abandon hgeneration hturn
    rw [Submission.suspensions_returns rfl]
    exact h.count_le_limit kind

/-- So there is a greatest number of suspensions. -/
theorem Life.length_suspensions_le {rules : Rules} {sub : Submission} (life : Life rules sub) :
    sub.suspensions.length ≤ 2 * max 1 rules.policy.maxAttempts + 1 := by
  have hread : _ ≤ 1 := life.count_le_limit .read
  have hupload : _ ≤ 1 := life.count_le_limit .upload
  have hpoll : _ ≤ max 1 rules.policy.maxAttempts := life.count_le_limit .poll
  have hwait : _ ≤ max 1 rules.policy.maxAttempts - 1 := life.count_le_limit .wait
  rw [Suspension.length_eq]
  omega

/-- One that is in flight has been suspended again after each answer. -/
theorem Undisturbed.length_suspensions {rules : Rules} {sub : Submission}
    (h : Undisturbed rules sub) (hflight : sub.InFlight) :
    sub.suspensions.length = sub.answered + 1 := by
  induction h with
  | @begins file begun a h =>
    obtain ⟨task, houtcome⟩ := hflight
    have hmove : (rules.submit file a).outcome = .waits task := houtcome
    rw [Submission.suspensions_begin, hmove]
    rfl
  | @goesOn sub answer turn h hturn ih =>
    obtain ⟨task, houtcome⟩ := hflight
    have hmove : turn.move.outcome = .waits task := houtcome
    have hbefore := ih (Submission.inFlight_of_turn? hturn)
    rw [Submission.answered_after hturn, Submission.suspensions_after, hmove, List.length_append,
      hbefore]
    rfl

/-! ## How a submission returns -/

/-- What a step returns that has found its attempt is that attempt, and it is over. -/
def Move.Concludes (move : Move) : Prop :=
  ∀ a, move.outcome = .returns a →
    a = move.attempt ∧ (a.phase = .completed ∨ a.phase = .failed)

theorem Advance.concludes {rules : Rules} {task : Task} {a : Attempt} {stage : Stage}
    {given : stage.Answer} {move : Move} (h : Advance rules task a stage given move) :
    move.Concludes := by
  intro returned hreturns
  cases h with
  | fails h =>
    cases hreturns
    exact ⟨rfl, .inr rfl⟩
  | completes number status h =>
    cases hreturns
    exact ⟨rfl, .inl rfl⟩
  | uploads selected contents => cases hreturns
  | accepted contents h => cases hreturns
  | pauses scanId h room => cases hreturns
  | polls scanId room => cases hreturns

theorem Opening.concludes {rules : Rules} {file : ScanFile} {generation : UInt64} {move : Move}
    (h : Opening rules file generation move) : move.Concludes := by
  intro returned hreturns
  cases h with
  | rejected h =>
    cases hreturns
    exact ⟨rfl, .inr rfl⟩
  | inMemory checked h advance => exact advance.concludes returned hreturns
  | onDisk checked h => cases hreturns

/-- An undisturbed submission that has returned has returned what it left, and that is over. -/
theorem Undisturbed.concludes {rules : Rules} {sub : Submission} (h : Undisturbed rules sub) :
    sub.last.Concludes := by
  cases h with
  | begins file h => exact (rules.opening_submit file _).concludes
  | goesOn h hturn =>
    obtain ⟨task, given, move, _, _, _, advance, rfl⟩ := h.advance hturn
    exact advance.concludes

namespace Session

/-! ## Answers -/

/-- A run that is taken apart. -/
theorem run?_split {rules : Rules} {s s' : Session} {acts more : List Act}
    (h : s.run? rules (acts ++ more) = some s') :
    ∃ next, s.run? rules acts = some next ∧ next.run? rules more = some s' := by
  induction acts generalizing s with
  | nil => exact ⟨s, rfl, h⟩
  | cons act acts ih =>
    obtain ⟨first, hfirst, h⟩ := run?_cons.mp h
    obtain ⟨next, hnext, hmore⟩ := ih h
    exact ⟨next, run?_cons.mpr ⟨first, hfirst, hnext⟩, hmore⟩

/-- The number of answers that have come for the submission at a place. -/
def answered (s : Session) (index : Nat) : Nat :=
  (s.submissions[index]?.map Submission.answered).getD 0

theorem answered_step? {rules : Rules} {s s' : Session} {act : Act}
    (h : s.step? rules act = some s') (index : Nat) :
    s'.answered index = s.answered index + (act.answerFor? index).toList.length := by
  rcases step?_cases h with ⟨hact, renewal⟩ | ⟨i, answer, sub, turn, rfl, hsub, hturn, rfl⟩
  · have hanswer : act.answerFor? index = none := by
      cases act with
      | resume index answer => cases hact
      | submit file => rfl
      | validate file => rfl
      | reset => rfl
    rw [hanswer, Option.toList_none, List.length_nil, Nat.add_zero]
    rcases renewal.submissions with hsubs | ⟨file, _, hsubs⟩
    · rw [answered, answered, hsubs]
    · -- where a submission begins there was none, and no answer has come for it
      rw [answered, answered, hsubs]
      rcases Nat.lt_trichotomy index s.submissions.length with hlt | rfl | hgt
      · rw [List.getElem?_append_left hlt]
      · rw [List.getElem?_concat_length, List.getElem?_eq_none (Nat.le_refl _)]
        rfl
      · rw [List.getElem?_eq_none (Nat.le_of_lt hgt),
          List.getElem?_eq_none (by rw [List.length_append]; exact hgt)]
  · rw [answered, answered, getElem?_take s i index sub turn hsub]
    by_cases hi : i = index
    · subst hi
      rw [if_pos rfl, hsub, Act.answerFor?, if_pos rfl]
      exact Submission.answered_after hturn
    · rw [if_neg hi, Act.answerFor?, if_neg hi]
      rfl

theorem answered_run? {rules : Rules} {s s' : Session} {acts : List Act}
    (h : s.run? rules acts = some s') (index : Nat) :
    s'.answered index = s.answered index + (acts.filterMap (Act.answerFor? index)).length := by
  induction acts generalizing s with
  | nil =>
    cases h
    rfl
  | cons act acts ih =>
    obtain ⟨next, hnext, h⟩ := run?_cons.mp h
    rw [ih h, answered_step? hnext, Nat.add_assoc]
    cases hanswer : act.answerFor? index with
    | none =>
      rw [List.filterMap_cons_none hanswer, Option.toList_none, List.length_nil, Nat.zero_add]
    | some answer =>
      rw [List.filterMap_cons_some hanswer, List.length_cons, Option.toList_some,
        List.length_singleton, Nat.add_comm 1]

/-! ## What others have made -/

/-- A session of which nothing is left but the number of renewals. -/
def blank (rules : Rules) (renewals : Nat) : Session where
  attempt := .fresh (UInt64.ofNat renewals) rules.policy.maxAttempts
  renewals := renewals
  submissions := []
  published := []

/-- A value is due to the last renewal, which is later than a submission at a place, and to the
answers for a submission at another place: where there has been nothing else, they make it too. -/
def MadeWithout (rules : Rules) (acts : List Act) (index : Nat) (sub : Submission) (a : Attempt) :
    Prop :=
  ∃ before renewal since other t,
    acts = before ++ renewal :: since ∧ renewal.renews = true ∧
      (∀ act ∈ since, act.renews = false) ∧ sub.begun ≤ before.countP Act.renews ∧
      other ≠ index ∧
      (blank rules (before.countP Act.renews)).run? rules
          (renewal :: (since.filterMap (Act.answerFor? other)).map (.resume 0)) = some t ∧
      t.attempt = a

theorem exists_last_renewal {acts : List Act} (h : 0 < acts.countP Act.renews) :
    ∃ before renewal since, acts = before ++ renewal :: since ∧ renewal.renews = true ∧
      ∀ act ∈ since, act.renews = false := by
  induction acts with
  | nil => cases h
  | cons act acts ih =>
    by_cases hmore : 0 < acts.countP Act.renews
    · obtain ⟨before, renewal, since, rfl, hrenewal, hsince⟩ := ih hmore
      exact ⟨act :: before, renewal, since, rfl, hrenewal, hsince⟩
    · -- there is none in the rest, so it is the first
      have hnone := Nat.eq_zero_of_not_pos hmore
      rw [List.countP_cons, hnone] at h
      refine ⟨[], act, acts, rfl, ?_, ?_⟩
      · cases hact : act.renews with
        | true => rfl
        | false =>
          rw [hact] at h
          cases h
      · intro other hother
        exact Bool.eq_false_iff.mpr (List.countP_eq_zero.mp hnone other hother)

/-- Of the attempt it finds a renewal needs to know the generation. -/
theorem Sound.step?_blank {rules : Rules} {s : Session} (sound : s.Sound) {act : Act}
    (hact : act.renews = true) :
    s.alone.step? rules act = (blank rules s.renewals).step? rules act := by
  have hgeneration : s.alone.attempt.generation = (blank rules s.renewals).attempt.generation :=
    sound.generation
  cases act with
  | submit file =>
    simp only [step?, submit, Rules.submit, rules.begin_eq, hgeneration]
    rfl
  | validate file =>
    simp only [step?, validate, Rules.validate, rules.begin_eq, hgeneration]
    rfl
  | reset =>
    simp only [step?, reset, Rules.reset, hgeneration]
    rfl
  | resume index answer => cases hact

/-- A submission that began before an act was there before it. -/
theorem lt_length_of_step? {rules : Rules} {s s' : Session} {act : Act}
    (h : s.step? rules act = some s') {index : Nat} {sub : Submission}
    (hsub : s'.submissions[index]? = some sub) (hbegun : sub.begun ≤ s.renewals) :
    index < s.submissions.length := by
  have hlt := (List.getElem?_eq_some_iff.mp hsub).choose
  rcases step?_cases h with ⟨_, renewal⟩ | ⟨_, _, _, _, _, _, _, rfl⟩
  · rcases renewal.submissions with hsubs | ⟨file, _, hsubs⟩
    · exact hsubs ▸ hlt
    · rw [hsubs, List.length_append, List.length_singleton] at hlt
      apply Nat.lt_of_le_of_ne (Nat.le_of_lt_succ hlt)
      rintro rfl
      rw [hsubs, List.getElem?_concat_length] at hsub
      cases hsub
      exact absurd hbegun (Nat.not_succ_le_self _)
  · rw [take, List.length_set] at hlt
    exact hlt

theorem lt_length_of_run? {rules : Rules} {s s' : Session} {acts : List Act}
    (h : s.run? rules acts = some s') {index : Nat} {sub : Submission}
    (hsub : s'.submissions[index]? = some sub) (hbegun : sub.begun ≤ s.renewals) :
    index < s.submissions.length := by
  induction acts generalizing s with
  | nil =>
    cases h
    exact (List.getElem?_eq_some_iff.mp hsub).choose
  | cons act acts ih =>
    obtain ⟨next, hnext, hrest⟩ := run?_cons.mp h
    have hlater : sub.begun ≤ next.renewals := by
      have hrenewals := renewals_step? hnext
      omega
    -- it was there after the act, as the same submission, and so before it
    have hplace := ih hrest hlater
    obtain ⟨sub', hsub', _, hsame⟩ :=
      getElem?_of_run? hrest (List.getElem?_eq_getElem hplace)
    rw [hsub] at hsub'
    cases hsub'
    exact lt_length_of_step? hnext (List.getElem?_eq_getElem hplace) (hsame ▸ hbegun)

theorem madeWithout_of_run? {rules : Rules} {s : Session} {acts : List Act}
    (h : (start rules).run? rules acts = some s) (few : acts.countP Act.renews < UInt64.size)
    {index : Nat} {sub : Submission} (hsub : s.submissions[index]? = some sub)
    (hlt : sub.begun < s.renewals) : MadeWithout rules acts index sub s.attempt := by
  have htotal : s.renewals = acts.countP Act.renews := by
    rw [renewals_run? h, start, Nat.zero_add]
  obtain ⟨before, renewal, since, rfl, hrenewal, hsince⟩ :=
    exists_last_renewal (show 0 < acts.countP Act.renews by omega)
  obtain ⟨s₀, hbefore, hrest⟩ := run?_split h
  obtain ⟨renewed, hrenewed, hsinceRun⟩ := run?_cons.mp hrest
  have hcount : s₀.renewals = before.countP Act.renews := by
    rw [renewals_run? hbefore, start, Nat.zero_add]
  have hnone : since.countP Act.renews = 0 := by
    rw [List.countP_eq_zero]
    intro act hact
    rw [hsince act hact]
    exact Bool.false_ne_true
  rw [List.countP_append, List.countP_cons_of_pos hrenewal, hnone] at htotal few
  have hbegun : sub.begun ≤ s₀.renewals := by omega
  have timely : renewed.Timely := by
    apply timely_of_lt
    rw [renewals_step? hrenewed, if_pos hrenewal, hcount]
    omega
  have sound := sound_of_run? hbefore
  -- the place of the submission was taken before the renewal, so it is not the one after it
  have hplace := lt_length_of_run? hrest hsub hbegun
  obtain ⟨t, ht, mirrors⟩ := sound.mirrors_renewal hrenewal hrenewed
  obtain ⟨t', ht', mirrors'⟩ := mirrors.run (sound.step hrenewed) timely hsince hsinceRun
  rw [sound.step?_blank hrenewal, hcount] at ht
  exact ⟨before, renewal, since, s₀.submissions.length, t', rfl, hrenewal, hsince,
    hcount ▸ hbegun, Nat.ne_of_gt hplace, run?_cons.mpr ⟨t, ht, ht'⟩, mirrors'.attempt⟩

/-! ## What is returned -/

/-- What a submission of a session returns: the attempt of that session, which is its own and over,
or else not its own. -/
def Gives (s : Session) (sub : Submission) (a : Attempt) : Prop :=
  a = s.attempt ∧
    (sub.begun = s.renewals ∧ (a.phase = .completed ∨ a.phase = .failed) ∨
      sub.begun < s.renewals ∧ a.generation ≠ sub.generation)

theorem Renewal.gives {rules : Rules} {s s' : Session} (renewal : Renewal rules s s') {index : Nat}
    {sub : Submission} (hsub : s'.submissions[index]? = some sub)
    (hnew : s.submissions[index]? ≠ some sub) {a : Attempt} (hreturns : sub.outcome = .returns a) :
    s'.Gives sub a := by
  rcases renewal.submissions with hsubs | ⟨file, hattempt, hsubs⟩
  · exact absurd (hsubs ▸ hsub) hnew
  · rw [hsubs] at hsub
    rcases Nat.lt_or_ge index s.submissions.length with hlt | hge
    · rw [List.getElem?_append_left hlt] at hsub
      exact absurd hsub hnew
    · -- the submission that has just begun
      rw [List.getElem?_append_right hge] at hsub
      obtain rfl := List.mem_singleton.mp (List.mem_of_getElem? hsub)
      obtain ⟨ha, hphase⟩ := (rules.opening_submit file s.attempt).concludes a hreturns
      exact ⟨ha.trans hattempt.symm, .inl ⟨renewal.renewals.symm, hphase⟩⟩

theorem Kept.gives_take {rules : Rules} {s : Session} (kept : s.Kept rules) (timely : s.Timely)
    {index : Nat} {sub : Submission} {turn : Turn} {answer : Answer}
    (hsub : s.submissions[index]? = some sub)
    (hturn : sub.turn? rules s.renewals s.attempt answer = some turn) {a : Attempt}
    (hreturns : (sub.after turn).outcome = .returns a) :
    (s.take index sub turn).Gives (sub.after turn) a := by
  have hmem := List.mem_of_getElem? hsub
  rcases kept.sound.take_cases kept.led timely hsub hturn with ⟨hbegun, _⟩ | ⟨hlt, hother, _⟩
  · obtain ⟨undisturbed, hleft⟩ := kept.led sub hmem hbegun
    rw [hleft] at hturn
    obtain ⟨task, given, move, _, _, _, advance, rfl⟩ := undisturbed.advance hturn
    obtain ⟨ha, hphase⟩ := advance.concludes a hreturns
    exact ⟨ha, .inl ⟨hbegun, hphase⟩⟩
  · have hnear := timely sub hmem (Submission.inFlight_of_turn? hturn)
    obtain ⟨events, hmove⟩ := kept.sound.superseded hmem hlt hnear hturn
    rw [Submission.outcome, Submission.after, hmove] at hreturns
    cases hreturns
    refine ⟨?_, .inr ⟨hlt, hother⟩⟩
    rw [take, hmove]
    rfl

/-- When a submission returns, it gives the attempt there is. -/
theorem Kept.gives {rules : Rules} {s s' : Session} (kept : s.Kept rules) (timely : s.Timely)
    {act : Act} (hstep : s.step? rules act = some s') {index : Nat} {sub : Submission}
    (hsub : s'.submissions[index]? = some sub)
    (hbefore : ∀ before, s.submissions[index]? = some before → before.InFlight) {a : Attempt}
    (hreturns : sub.outcome = .returns a) : s'.Gives sub a := by
  -- it has returned now, so it is not one that the act has left as it was
  have hnew : s.submissions[index]? ≠ some sub := by
    intro h
    obtain ⟨task, hwaits⟩ := hbefore sub h
    rw [hwaits] at hreturns
    cases hreturns
  rcases step?_cases hstep with ⟨_, renewal⟩ | ⟨i, answer, before, turn, rfl, hi, hturn, rfl⟩
  · exact renewal.gives hsub hnew hreturns
  · rw [getElem?_take s i index before turn hi] at hsub
    split at hsub
    next =>
      cases hsub
      exact kept.gives_take timely hi hturn hreturns
    next => exact absurd hsub hnew

/-- A submission that waits for an answer goes on when it comes. -/
theorem isSome_step?_resume {rules : Rules} {s : Session} {index : Nat} {sub : Submission}
    (hsub : s.submissions[index]? = some sub) {task : Task} (houtcome : sub.outcome = .waits task)
    {answer : Answer} (hanswer : (answer.at? rules task.stage).isSome) :
    (s.step? rules (.resume index answer)).isSome := by
  obtain ⟨given, hgiven⟩ := Option.isSome_iff_exists.mp hanswer
  simp only [step?, hsub, Submission.turn?, houtcome, hgiven, Option.map_some, Option.isSome_some]

/-- It has returned when so many answers have come for it. -/
theorem Kept.returns_of_answered {rules : Rules} {s : Session} (kept : s.Kept rules) {index : Nat}
    {sub : Submission} (hsub : s.submissions[index]? = some sub)
    (h : 2 * max 1 rules.policy.maxAttempts + 1 ≤ s.answered index) :
    ∃ a, sub.outcome = .returns a := by
  have life := kept.lives sub (List.mem_of_getElem? hsub)
  cases houtcome : sub.outcome with
  | returns a => exact ⟨a, rfl⟩
  | waits task =>
    -- it would be suspended once more than it has been answered
    have hflight : sub.InFlight := ⟨task, houtcome⟩
    have hlength := (life.undisturbed_of_inFlight hflight).length_suspensions hflight
    have hle := life.length_suspensions_le
    rw [answered, hsub, Option.map_some, Option.getD_some] at h
    omega

end Session

/-! ## The main result -/

/-- Whatever happens in whatever order, as long as the attempt has been renewed fewer than `2 ^ 64`
times, and whatever act has been the last, a submission is suspended for a read and an upload once
each, for no more polls than the policy allows, and for the waits between them. It goes on with
every answer that it waits for, and when as many have come as it may be suspended, it has returned.
If it had been superseded when the answer came that was the last act, it has changed and started
nothing, and returned. And if it has returned with that act, it has returned the attempt of this
moment: an attempt of its own generation is over, and any other has been made without it after it
was superseded. -/
theorem every_submission_returns (rules : Rules) {acts : List Act} {act : Act} {s next : Session}
    (hrun : (Session.start rules).run? rules acts = some s)
    (hstep : s.step? rules act = some next)
    (few : (acts ++ [act]).countP Act.renews < UInt64.size) {index : Nat} {sub : Submission}
    (hsub : next.submissions[index]? = some sub) :
    (∀ kind, sub.suspensions.count kind ≤ kind.limit rules.policy) ∧
    sub.suspensions.length ≤ 2 * max 1 rules.policy.maxAttempts + 1 ∧
    (∀ task answer, sub.outcome = .waits task → (answer.at? rules task.stage).isSome →
      (next.step? rules (.resume index answer)).isSome) ∧
    (2 * max 1 rules.policy.maxAttempts + 1 ≤
        ((acts ++ [act]).filterMap (Act.answerFor? index)).length →
      ∃ a, sub.outcome = .returns a) ∧
    (∀ answer, act = .resume index answer → sub.begun < s.renewals →
      next.attempt = s.attempt ∧ next.published = s.published ∧
        ∃ events : List Log.Event, sub.last = .final s.attempt (events.map .log)) ∧
    ∀ a, (∀ before, s.submissions[index]? = some before → before.InFlight) →
      sub.outcome = .returns a →
      a = next.attempt ∧
      (a.generation = sub.generation → a.phase = .completed ∨ a.phase = .failed) ∧
      (a.generation ≠ sub.generation → sub.begun < next.renewals ∧
        Session.MadeWithout rules (acts ++ [act]) index sub a) := by
  have hnext : (Session.start rules).run? rules (acts ++ [act]) = some next :=
    Session.run?_append hrun (Session.run?_cons.mpr ⟨next, hstep, rfl⟩)
  have fewBefore : acts.countP Act.renews < UInt64.size := by
    rw [List.countP_append] at few
    omega
  have kept := Session.kept_of_run? hrun fewBefore
  have keptNext := Session.kept_of_run? hnext few
  have hrenewals : s.renewals = acts.countP Act.renews := by
    rw [Session.renewals_run? hrun, Session.start, Nat.zero_add]
  have timely : s.Timely := Session.timely_of_lt (hrenewals ▸ fewBefore)
  have life := keptNext.lives sub (List.mem_of_getElem? hsub)
  refine ⟨life.count_le_limit, life.length_suspensions_le, ?_, ?_, ?_, ?_⟩
  · intro task answer houtcome hanswer
    exact Session.isSome_step?_resume hsub houtcome hanswer
  · intro hanswers
    apply keptNext.returns_of_answered hsub
    rw [Session.answered_run? hnext]
    exact Nat.le_trans hanswers (Nat.le_add_left _ _)
  · rintro answer rfl hlt
    obtain ⟨before, turn, hbefore, hturn, rfl⟩ := Session.step?_resume hstep
    have hmem := List.mem_of_getElem? hbefore
    rw [Session.getElem?_take s index index before turn hbefore, if_pos rfl] at hsub
    cases hsub
    have hnear := timely before hmem (Submission.inFlight_of_turn? hturn)
    obtain ⟨events, hmove⟩ := kept.sound.superseded hmem hlt hnear hturn
    rw [kept.sound.take_superseded hbefore hlt hnear hturn]
    exact ⟨rfl, rfl, events, hmove⟩
  · intro a hbefore hreturns
    obtain ⟨ha, hgives⟩ := kept.gives timely hstep hsub hbefore hreturns
    refine ⟨ha, fun hown => ?_, fun hother => ?_⟩
    · rcases hgives with ⟨_, hphase⟩ | ⟨_, hother⟩
      · exact hphase
      · exact absurd hown hother
    · rcases hgives with ⟨hbegun, _⟩ | ⟨hlt, _⟩
      · -- the generation of the attempt is that of the last submission
        rw [ha, keptNext.sound.generation, ← hbegun] at hother
        exact absurd rfl hother
      · rw [ha]
        exact ⟨hlt, Session.madeWithout_of_run? hnext few hsub hlt⟩

/-- The late receipt ends the first submission, which returns the attempt the reset has made. -/
theorem lateScan_returns :
    ∃ s next sub a, (Session.start .standard).run? .standard (Session.lateScan.take 3) = some s ∧
      s.step? .standard (.resume 0 (.upload (.ok ⟨some "6"⟩))) = some next ∧
      next.submissions[0]? = some sub ∧ sub.suspensions.length ≤ 61 ∧
      next.attempt = s.attempt ∧ sub.outcome = .returns a ∧ a = next.attempt ∧ a.phase = .idle ∧
      Session.MadeWithout .standard (Session.lateScan.take 4) 0 sub a := by
  have hrun : (Session.start .standard).run? .standard (Session.lateScan.take 3) = some _ := rfl
  obtain ⟨_, hlength, _, _, hsuperseded, hgives⟩ :=
    @every_submission_returns .standard _ (.resume 0 (.upload (.ok ⟨some "6"⟩))) _ _ hrun rfl
      (by decide) 0 _ rfl
  obtain ⟨hattempt, _, _⟩ := hsuperseded _ rfl (by decide)
  obtain ⟨ha, _, hother⟩ := hgives _ (fun before hbefore => by cases hbefore; exact ⟨_, rfl⟩) rfl
  exact ⟨_, _, _, _, hrun, rfl, rfl, hlength, hattempt, rfl, ha, rfl, (hother (by decide)).2⟩

end ScanClient
