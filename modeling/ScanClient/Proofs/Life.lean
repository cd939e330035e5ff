import ScanClient.Proofs.Supersession

/-!
# Lives of submissions

A submission that is not superseded finds the attempt as it left it, whatever else goes on. So its
life is its own: the steps it takes one after another, each on the attempt the step before has left,
and for the last step perhaps an attempt that is not its own any more. What holds of all such lives
holds of all submissions of a session, as long as generations do not come round.
-/

namespace ScanClient

/-- Each step found the attempt as the step before had left it. -/
inductive Undisturbed (rules : Rules) : Submission → Prop where
  | begins (file : ScanFile) {begun : Nat} {a : Attempt}
      (h : a.generation + 1 = UInt64.ofNat begun) :
      Undisturbed rules (.begin file begun (rules.submit file a))
  | goesOn {sub : Submission} {answer : Answer} {turn : Turn} (h : Undisturbed rules sub)
      (hturn : sub.turn? rules sub.begun sub.left answer = some turn) :
      Undisturbed rules (sub.after turn)

/-- The lives of submissions. One that is superseded has not been disturbed before its last step. -/
inductive Life (rules : Rules) : Submission → Prop where
  | undisturbed {sub : Submission} (h : Undisturbed rules sub) : Life rules sub
  | superseded {sub : Submission} {renewals : Nat} {a : Attempt} {answer : Answer} {turn : Turn}
      (h : Undisturbed rules sub) (hlt : sub.begun < renewals)
      (hgeneration : a.generation ≠ UInt64.ofNat sub.begun)
      (hturn : sub.turn? rules renewals a answer = some turn) : Life rules (sub.after turn)

/-! ## Where a submission stands -/

/-- The attempt as a submission has left it that waits, from what it began with. -/
def Stage.leaves (begun : Attempt) : Stage → Attempt
  | .reading _ => begun
  | .uploading _ => { begun with phase := .uploading }
  | .polling scanId number | .waiting scanId number =>
    { begun with phase := .polling, scanId := some scanId, attemptCount := number }

/-- What holds of what a submission of a file waits for. -/
def Stage.Fits (rules : Rules) (file : ScanFile) : Stage → Prop
  | .reading selected => selected = file
  | .uploading contents => contents.size ≤ rules.limits.maxFileSize
  | .polling scanId number =>
    Text.isBlankText scanId = false ∧ 1 ≤ number ∧ number ≤ rules.policy.budget
  | .waiting scanId number =>
    Text.isBlankText scanId = false ∧ 1 ≤ number ∧ number < rules.policy.budget

/-- What holds of the contents that a read gives. -/
def Stage.Sized (rules : Rules) : (stage : Stage) → stage.Answer → Prop
  | .reading _, .ok contents => contents.size ≤ rules.limits.maxFileSize
  | _, _ => True

/-- Where a submission of a file stands that waits and has not been disturbed. -/
structure Standing (rules : Rules) (file : ScanFile) (generation : UInt64) (task : Task)
    (left : Attempt) : Prop where
  generation_eq : task.generation = generation
  filename_eq : task.filename = file.name
  checked : rules.limits.check file.name file.size = .ok ()
  left_eq : left = task.stage.leaves (rules.begun file generation)
  fits : task.stage.Fits rules file

theorem ScanFile.size_of_checkSize {max : Nat} {given contents : Blob}
    (h : checkSize max given = .ok contents) : contents = given ∧ contents.size ≤ max := by
  unfold checkSize at h
  split at h
  · cases h
  · next hle =>
    cases h
    exact ⟨rfl, Nat.le_of_not_lt hle⟩

/-- A read that succeeds gives no more than is allowed. -/
theorem ScanFile.size_of_read {file : ScanFile} {tree : Files.Tree} {max : Nat} {contents : Blob}
    (h : file.read tree max = .ok contents) : contents.size ≤ max := by
  unfold read at h
  split at h
  · exact (size_of_checkSize h).2
  · split at h
    · cases h
    · split at h
      · cases h
      · next hle =>
        cases h
        exact Nat.le_of_not_lt hle

theorem Answer.at?_sized {rules : Rules} {answer : Answer} {stage : Stage} {given : stage.Answer}
    (h : answer.at? rules stage = some given) : stage.Sized rules given := by
  cases stage with
  | reading file =>
    obtain ⟨files, _, rfl⟩ := Answer.at?_reading h
    cases files with
    | error e => trivial
    | ok tree =>
      cases hread : file.read tree rules.limits.maxFileSize with
      | error e =>
        simp only [Except.bind, hread]
        trivial
      | ok contents =>
        simp only [Except.bind, hread]
        exact ScanFile.size_of_read hread
  | uploading contents => trivial
  | polling scanId number => trivial
  | waiting scanId number => trivial

theorem Receipt.usableId_eq_some {receipt : Receipt} {scanId : String}
    (h : receipt.usableId = some scanId) :
    receipt.scanId = some scanId ∧ Text.isBlankText scanId = false := by
  obtain ⟨hid, hblank⟩ := Option.filter_eq_some_iff.mp h
  exact ⟨hid, by simpa using hblank⟩

namespace Standing

variable {rules : Rules} {file : ScanFile} {generation : UInt64} {task : Task} {left : Attempt}

theorem generation_left (standing : Standing rules file generation task left) :
    left.generation = generation := by
  rw [standing.left_eq]
  cases task.stage <;> rfl

/-- The attempt is there for a submission that stands somewhere. -/
theorem current (standing : Standing rules file generation task left) :
    left.generation = task.generation :=
  standing.generation_left.trans standing.generation_eq.symm

/-- A step leads from one standing to the next. -/
theorem advance (standing : Standing rules file generation task left) {given : task.stage.Answer}
    (sized : task.stage.Sized rules given) {move : Move}
    (h : Advance rules task left task.stage given move) {next : Task}
    (hnext : move.outcome = .waits next) : Standing rules file generation next move.attempt := by
  obtain ⟨taskGeneration, filename, stage⟩ := task
  obtain ⟨hgeneration, hfilename, hchecked, hleft, hfits⟩ := standing
  have hbudget : 1 ≤ rules.policy.budget := Nat.le_max_left _ _
  cases h with
  | fails h => cases hnext
  | uploads file contents =>
    cases hnext
    exact ⟨hgeneration, hfilename, hchecked, by rw [hleft]; rfl, sized⟩
  | accepted contents h =>
    cases hnext
    exact ⟨hgeneration, hfilename, hchecked, by rw [hleft]; rfl,
      (Receipt.usableId_eq_some h).2, Nat.le_refl 1, hbudget⟩
  | pauses scanId h room =>
    cases hnext
    exact ⟨hgeneration, hfilename, hchecked, by rw [hleft]; rfl, hfits.1, hfits.2.1, room⟩
  | polls scanId room =>
    cases hnext
    exact ⟨hgeneration, hfilename, hchecked, by rw [hleft]; rfl, hfits.1, Nat.succ_pos _, room⟩
  | completes number status h => cases hnext

end Standing

/-- Where a submission stands that has just begun to read. A file in memory is as good as there. -/
theorem Rules.standing_begun (rules : Rules) {file : ScanFile} (generation : UInt64)
    (checked : rules.limits.check file.name file.size = .ok ()) :
    Standing rules file generation ⟨generation, file.name, .reading file⟩
      (rules.begun file generation) :=
  ⟨rfl, rfl, checked, rfl, rfl⟩

theorem Rules.sized_inMemory (rules : Rules) (file : ScanFile) (contents : Blob) :
    Stage.Sized rules (.reading file) (ScanFile.checkSize rules.limits.maxFileSize contents) := by
  cases h : ScanFile.checkSize rules.limits.maxFileSize contents with
  | error e => trivial
  | ok given => exact (ScanFile.size_of_checkSize h).2

theorem Opening.standing {rules : Rules} {file : ScanFile} {generation : UInt64} {move : Move}
    {next : Task} (h : Opening rules file generation move) (hnext : move.outcome = .waits next) :
    Standing rules file generation next move.attempt := by
  cases h with
  | rejected h => cases hnext
  | inMemory checked h advance =>
    exact (rules.standing_begun generation checked).advance
      (rules.sized_inMemory file _) advance hnext
  | onDisk checked h =>
    cases hnext
    exact rules.standing_begun generation checked

/-- A submission that waits and has not been disturbed stands where its steps have led it. -/
theorem Undisturbed.standing {rules : Rules} {sub : Submission} (h : Undisturbed rules sub)
    {task : Task} (houtcome : sub.outcome = .waits task) :
    Standing rules sub.file (UInt64.ofNat sub.begun) task sub.left := by
  induction h generalizing task with
  | begins file h =>
    -- the generation it began with is the one after that of the attempt it found
    rw [Submission.begin] at houtcome ⊢
    rw [← h]
    exact (rules.opening_submit file _).standing houtcome
  | goesOn h hturn ih =>
    obtain ⟨before, given, hbefore, hgiven, rfl⟩ := Submission.turn?_eq_some hturn
    have standing := ih hbefore
    exact standing.advance (Answer.at?_sized hgiven)
      (before.advance_resume rules given standing.current) houtcome

/-- A step of an undisturbed submission, taken apart. -/
theorem Undisturbed.advance {rules : Rules} {sub : Submission} (h : Undisturbed rules sub)
    {renewals : Nat} {answer : Answer} {turn : Turn}
    (hturn : sub.turn? rules renewals sub.left answer = some turn) :
    ∃ (task : Task) (given : task.stage.Answer) (move : Move), sub.outcome = .waits task ∧
      Standing rules sub.file (UInt64.ofNat sub.begun) task sub.left ∧
      answer.at? rules task.stage = some given ∧
      Advance rules task sub.left task.stage given move ∧
      turn = ⟨some (task.stage, answer), renewals, move⟩ := by
  obtain ⟨task, given, houtcome, hgiven, rfl⟩ := Submission.turn?_eq_some hturn
  have standing := h.standing houtcome
  exact ⟨task, given, _, houtcome, standing, hgiven,
    task.advance_resume rules given standing.current, rfl⟩

/-- The last step of a submission that was superseded, taken apart. -/
theorem Undisturbed.abandon {rules : Rules} {sub : Submission} (h : Undisturbed rules sub)
    {renewals : Nat} {a : Attempt} {answer : Answer} {turn : Turn}
    (hgeneration : a.generation ≠ UInt64.ofNat sub.begun)
    (hturn : sub.turn? rules renewals a answer = some turn) :
    ∃ (task : Task) (given : task.stage.Answer) (events : List Log.Event),
      sub.outcome = .waits task ∧ answer.at? rules task.stage = some given ∧
        turn = ⟨some (task.stage, answer), renewals, .final a (events.map .log)⟩ := by
  obtain ⟨task, given, houtcome, hgiven, rfl⟩ := Submission.turn?_eq_some hturn
  rw [← (h.standing houtcome).generation_eq] at hgeneration
  obtain ⟨events, hmove⟩ := task.resume_superseded rules given a hgeneration
  exact ⟨task, given, events, houtcome, hgiven, by rw [hmove]⟩

/-- What holds of all first steps and of all steps from where a submission may stand, holds of all
steps of an undisturbed one. -/
theorem Undisturbed.turns {rules : Rules} {sub : Submission} {P : Turn → Prop}
    (h : Undisturbed rules sub)
    (hopening : ∀ move, Opening rules sub.file (UInt64.ofNat sub.begun) move →
      P ⟨none, sub.begun, move⟩)
    (hadvance : ∀ (task : Task) (left : Attempt) (given : task.stage.Answer) (answer : Answer)
      (move : Move), Standing rules sub.file (UInt64.ofNat sub.begun) task left →
      answer.at? rules task.stage = some given → Advance rules task left task.stage given move →
      P ⟨some (task.stage, answer), sub.begun, move⟩) : ∀ turn ∈ sub.turns, P turn := by
  induction h with
  | begins file h =>
    intro turn hturn
    rw [List.mem_singleton.mp hturn]
    apply hopening
    rw [Submission.begin, ← h]
    exact rules.opening_submit file _
  | goesOn h hnext ih =>
    intro turn hturn
    rcases List.mem_append.mp hturn with hturn | hturn
    · exact ih hopening hadvance turn hturn
    · rw [List.mem_singleton.mp hturn]
      obtain ⟨task, given, move, _, standing, hgiven, advance, rfl⟩ := h.advance hnext
      exact hadvance task _ given _ move standing hgiven advance

/-- And of all steps of one that has been superseded, if it holds of a last step that changes
nothing. -/
theorem Life.turns {rules : Rules} {sub : Submission} {P : Turn → Prop} (life : Life rules sub)
    (hopening : ∀ move, Opening rules sub.file (UInt64.ofNat sub.begun) move →
      P ⟨none, sub.begun, move⟩)
    (hadvance : ∀ (task : Task) (left : Attempt) (given : task.stage.Answer) (answer : Answer)
      (move : Move), Standing rules sub.file (UInt64.ofNat sub.begun) task left →
      answer.at? rules task.stage = some given → Advance rules task left task.stage given move →
      P ⟨some (task.stage, answer), sub.begun, move⟩)
    (habandon : ∀ cause renewals (a : Attempt) (events : List Log.Event),
      P ⟨cause, renewals, .final a (events.map .log)⟩) : ∀ turn ∈ sub.turns, P turn := by
  cases life with
  | undisturbed h => exact h.turns hopening hadvance
  | superseded h hlt hgeneration hnext =>
    intro turn hturn
    rcases List.mem_append.mp hturn with hturn | hturn
    · exact h.turns hopening hadvance turn hturn
    · rw [List.mem_singleton.mp hturn]
      obtain ⟨_, _, events, _, _, rfl⟩ := h.abandon hgeneration hnext
      exact habandon _ _ _ events

/-- A submission in flight has not been disturbed, for one that was superseded has returned. -/
theorem Life.undisturbed_of_inFlight {rules : Rules} {sub : Submission} (life : Life rules sub)
    (hflight : sub.InFlight) : Undisturbed rules sub := by
  cases life with
  | undisturbed h => exact h
  | superseded h hlt hgeneration hturn =>
    obtain ⟨_, _, _, _, _, rfl⟩ := h.abandon hgeneration hturn
    obtain ⟨next, hnext⟩ := hflight
    cases hnext

/-! ## The submissions of a session -/

/-- The values of the attempt that a session may publish. -/
inductive Shown (rules : Rules) : Attempt → Prop where
  | fresh (generation : UInt64) : Shown rules (.fresh generation rules.policy.maxAttempts)
  | begun (file : ScanFile) (generation : UInt64) : Shown rules (rules.begun file generation)
  | selected (file : ScanFile) (generation : UInt64) :
      Shown rules { rules.begun file generation with phase := .idle }
  | rejected (file : ScanFile) (generation : UInt64) (rejection : Rejection) :
      Shown rules ((rules.begun file generation).fail (ScanError.rejected rejection).recorded)
  | turn {sub : Submission} {turn : Turn} {a : Attempt} (h : Undisturbed rules sub)
      (hturn : turn ∈ sub.turns) (ha : a ∈ publications turn.move.effects) : Shown rules a

namespace Session

/-- The submission that is not superseded has not been disturbed, and the attempt is as it left
it. -/
def Led (rules : Rules) (s : Session) : Prop :=
  ∀ sub ∈ s.submissions, sub.begun = s.renewals → Undisturbed rules sub ∧ s.attempt = sub.left

theorem Sound.led_renewal {rules : Rules} {s s' : Session} (sound : s.Sound)
    (h : Renewal rules s s') : s'.Led rules := by
  intro sub hsub hbegun
  -- those that were there before began before this renewal
  have hold : sub ∉ s.submissions := by
    intro hmem
    have := sound.begun_le sub hmem
    rw [h.renewals] at hbegun
    omega
  rcases h.submissions with hsubs | ⟨file, hattempt, hsubs⟩
  · exact absurd (hsubs ▸ hsub) hold
  · rw [hsubs] at hsub
    rcases List.mem_append.mp hsub with hsub | hsub
    · exact absurd hsub hold
    · rw [List.mem_singleton.mp hsub]
      exact ⟨.begins file sound.generation_succ, hattempt⟩

/-- A step is one of the submission that is not superseded, or nothing shows of it. -/
theorem Sound.take_cases {rules : Rules} {s : Session} (sound : s.Sound) (led : s.Led rules)
    (timely : s.Timely) {index : Nat} {sub : Submission} {turn : Turn} {answer : Answer}
    (hsub : s.submissions[index]? = some sub)
    (hturn : sub.turn? rules s.renewals s.attempt answer = some turn) :
    (sub.begun = s.renewals ∧ Undisturbed rules (sub.after turn)) ∨
      (sub.begun < s.renewals ∧ s.attempt.generation ≠ UInt64.ofNat sub.begun ∧
        s.take index sub turn =
          { s with submissions := s.submissions.set index (sub.after turn) }) := by
  have hmem := List.mem_of_getElem? hsub
  rcases Nat.lt_or_eq_of_le (sound.begun_le sub hmem) with hlt | hbegun
  · have hnear := timely sub hmem (Submission.inFlight_of_turn? hturn)
    refine .inr ⟨hlt, ?_, sound.take_superseded hsub hlt hnear hturn⟩
    rw [sound.generation]
    exact generation_ne hlt hnear
  · obtain ⟨undisturbed, hleft⟩ := led sub hmem hbegun
    rw [hleft, ← hbegun] at hturn
    exact .inl ⟨hbegun, undisturbed.goesOn hturn⟩

theorem Sound.led_take {rules : Rules} {s : Session} (sound : s.Sound) (led : s.Led rules)
    (timely : s.Timely) {index : Nat} {sub : Submission} {turn : Turn} {answer : Answer}
    (hsub : s.submissions[index]? = some sub)
    (hturn : sub.turn? rules s.renewals s.attempt answer = some turn) :
    (s.take index sub turn).Led rules := by
  rcases sound.take_cases led timely hsub hturn with ⟨hbegun, undisturbed⟩ | ⟨hlt, _, htake⟩
  · intro other hother hcurrent
    obtain ⟨i, hother⟩ := List.mem_iff_getElem?.mp hother
    rw [getElem?_take s index i sub turn hsub] at hother
    split at hother
    next =>
      cases hother
      exact ⟨undisturbed, rfl⟩
    next hi =>
      -- only the last submission is not superseded, so there cannot be two
      have h₁ := sound.last hsub hbegun
      have h₂ := sound.last hother hcurrent
      omega
  · rw [htake]
    intro other hother hcurrent
    rcases List.mem_or_eq_of_mem_set hother with hother | rfl
    · exact led other hother hcurrent
    · exact absurd hcurrent (Nat.ne_of_lt hlt)

theorem Sound.lives_take {rules : Rules} {s : Session} (sound : s.Sound) (led : s.Led rules)
    (timely : s.Timely) (lives : ∀ sub ∈ s.submissions, Life rules sub) {index : Nat}
    {sub : Submission} {turn : Turn} {answer : Answer} (hsub : s.submissions[index]? = some sub)
    (hturn : sub.turn? rules s.renewals s.attempt answer = some turn) :
    ∀ other ∈ (s.take index sub turn).submissions, Life rules other := by
  intro other hother
  rcases List.mem_or_eq_of_mem_set hother with hother | rfl
  · exact lives other hother
  rcases sound.take_cases led timely hsub hturn with ⟨_, undisturbed⟩ | ⟨hlt, hgeneration, _⟩
  · exact .undisturbed undisturbed
  · have life := lives sub (List.mem_of_getElem? hsub)
    have undisturbed := life.undisturbed_of_inFlight (Submission.inFlight_of_turn? hturn)
    exact .superseded undisturbed hlt hgeneration hturn

/-- What holds of a session in which generations have not come round. -/
structure Kept (rules : Rules) (s : Session) : Prop where
  sound : s.Sound
  led : s.Led rules
  lives : ∀ sub ∈ s.submissions, Life rules sub
  published : ∀ a ∈ s.published, Shown rules a

theorem kept_start (rules : Rules) : (start rules).Kept rules where
  sound := sound_start rules
  led _ h := nomatch h
  lives _ h := nomatch h
  published a ha := by
    rw [List.mem_singleton.mp ha]
    exact .fresh 0

/-- What a renewal publishes. -/
theorem Sound.shown_renewal {rules : Rules} {s s' : Session} (sound : s.Sound) {act : Act}
    (hact : act.renews = true) (h : s.step? rules act = some s') {a : Attempt}
    (ha : a ∈ s'.published) : a ∈ s.published ∨ Shown rules a := by
  cases act with
  | submit file =>
    cases h
    refine (List.mem_append.mp ha).imp_right fun ha => ?_
    exact .turn (.begins file sound.generation_succ) List.mem_cons_self ha
  | validate file =>
    cases h
    cases checked : rules.limits.check file.name file.size with
    | ok _ =>
      rw [validate_ok s checked] at ha
      refine (List.mem_append.mp ha).imp_right fun ha => ?_
      rcases List.mem_cons.mp ha with rfl | ha
      · exact .begun file _
      · rw [List.mem_singleton.mp ha]
        exact .selected file _
    | error rejection =>
      rw [validate_error s checked] at ha
      refine (List.mem_append.mp ha).imp_right fun ha => ?_
      rcases List.mem_cons.mp ha with rfl | ha
      · exact .begun file _
      · rw [List.mem_singleton.mp ha]
        exact .rejected file _ rejection
  | reset =>
    cases h
    refine (List.mem_append.mp ha).imp_right fun ha => ?_
    rw [List.mem_singleton.mp ha]
    exact .fresh _
  | resume index answer => cases hact

/-- What a step publishes. -/
theorem Kept.shown_take {rules : Rules} {s : Session} (kept : s.Kept rules) (timely : s.Timely)
    {index : Nat} {sub : Submission} {turn : Turn} {answer : Answer}
    (hsub : s.submissions[index]? = some sub)
    (hturn : sub.turn? rules s.renewals s.attempt answer = some turn) {a : Attempt}
    (ha : a ∈ (s.take index sub turn).published) : Shown rules a := by
  rcases kept.sound.take_cases kept.led timely hsub hturn with ⟨_, undisturbed⟩ | ⟨_, _, htake⟩
  · rcases List.mem_append.mp ha with ha | ha
    · exact kept.published a ha
    · exact .turn undisturbed (List.mem_append_right _ List.mem_cons_self) ha
  · rw [htake] at ha
    exact kept.published a ha

theorem Kept.step {rules : Rules} {s s' : Session} {act : Act} (kept : s.Kept rules)
    (timely : s.Timely) (h : s.step? rules act = some s') : s'.Kept rules := by
  rcases step?_cases h with ⟨hact, renewal⟩ | ⟨_, _, _, _, _, hsub, hturn, rfl⟩
  · refine ⟨kept.sound.step h, kept.sound.led_renewal renewal, ?_, ?_⟩
    · intro sub hsub
      rcases renewal.submissions with hsubs | ⟨file, _, hsubs⟩
      · exact kept.lives sub (hsubs ▸ hsub)
      · rw [hsubs] at hsub
        rcases List.mem_append.mp hsub with hsub | hsub
        · exact kept.lives sub hsub
        · rw [List.mem_singleton.mp hsub]
          exact .undisturbed (.begins file kept.sound.generation_succ)
    · intro a ha
      exact (kept.sound.shown_renewal hact h ha).elim (kept.published a) id
  · exact ⟨kept.sound.take hsub hturn, kept.sound.led_take kept.led timely hsub hturn,
      kept.sound.lives_take kept.led timely kept.lives hsub hturn,
      fun a ha => kept.shown_take timely hsub hturn ha⟩

/-- A session with fewer than `2 ^ 64` renewals is kept. -/
theorem kept_of_run? {rules : Rules} {s : Session} {acts : List Act}
    (h : (start rules).run? rules acts = some s) (few : acts.countP Act.renews < UInt64.size) :
    s.Kept rules := by
  have hrenewals := renewals_run? h
  have hfew : s.renewals < UInt64.size := by
    rw [hrenewals, start, Nat.zero_add]
    exact few
  -- renewals only grow, so there were few of them all the while
  refine run?_keeps (P := fun s => s.renewals < UInt64.size → s.Kept rules) ?_
    (fun _ => kept_start rules) h hfew
  intro s act s' kept hstep hfew'
  have := renewals_step? hstep
  have hfew : s.renewals < UInt64.size := by omega
  exact (kept hfew).step (timely_of_lt hfew) hstep

end Session

end ScanClient
