import Mathlib.Algebra.GroupWithZero.Nat
import ScanClient.Proofs.Consistency
import ScanClient.Proofs.Outcome
import ScanClient.Rehearsal

/-!
# Rehearsals are sessions

A rehearsal settles what a session leaves open: which submission goes on next, and what it is told.
Whatever a rehearsal does is a run of a session all the same, so what holds of all sessions holds of
all rehearsals.
-/

namespace ScanClient

/-- A job is the submission at a place of a session, and goes on with an answer to what that waits
for. -/
def Job.Waits (rules : Rules) (s : Session) (index : Nat) (job : Job) : Prop :=
  ∃ sub answer, s.submissions[index]? = some sub ∧ sub.outcome = .waits job.task ∧
    Answer.at? rules answer job.task.stage = some job.answer

/-- Jobs are submissions of a session, no two the same. -/
def Manned (rules : Rules) (s : Session) (jobs : List Job) : Prop :=
  ∃ crew : List (Nat × Job), (crew.map Prod.snd).Perm jobs ∧ (crew.map Prod.fst).Nodup ∧
    ∀ entry ∈ crew, entry.2.Waits rules s entry.1

theorem Manned.perm {rules : Rules} {s : Session} {jobs jobs' : List Job}
    (manned : Manned rules s jobs) (h : jobs.Perm jobs') : Manned rules s jobs' := by
  obtain ⟨crew, hperm, hnodup, hwaits⟩ := manned
  exact ⟨crew, hperm.trans h, hnodup, hwaits⟩

/-- The first of some jobs is at a place where no other job is. -/
theorem Manned.first {rules : Rules} {s : Session} {job : Job} {jobs : List Job}
    (manned : Manned rules s (job :: jobs)) :
    ∃ index crew, job.Waits rules s index ∧ (List.map Prod.snd crew).Perm jobs ∧
      (index :: crew.map Prod.fst).Nodup ∧ ∀ entry ∈ crew, entry.2.Waits rules s entry.1 := by
  obtain ⟨crew, hperm, hnodup, hwaits⟩ := manned
  have hmem : job ∈ crew.map Prod.snd := hperm.mem_iff.mpr List.mem_cons_self
  obtain ⟨⟨index, given⟩, hentry, rfl⟩ := List.mem_map.mp hmem
  -- the entry of the job is brought to the front
  obtain ⟨before, behind, rfl⟩ := List.append_of_mem hentry
  have hmiddle : (before ++ (index, given) :: behind).Perm ((index, given) :: (before ++ behind)) :=
    List.perm_middle
  refine ⟨index, before ++ behind, hwaits _ hentry, ?_, ?_, ?_⟩
  · exact ((hmiddle.map Prod.snd).symm.trans hperm).cons_inv
  · exact (hmiddle.map Prod.fst).nodup_iff.mp hnodup
  · intro entry hmem
    exact hwaits entry (hmiddle.mem_iff.mpr (List.mem_cons_of_mem _ hmem))

namespace Rehearsal

/-- A rehearsal is where a session is. -/
structure Plays (r : Rehearsal) (s : Session) : Prop where
  attempt : s.attempt = r.attempt
  manned : Manned r.rules s r.jobs

/-! ## Putting submissions where they wait -/

/-- What a submission goes on with is what it can be told. -/
theorem exists_answer {r : Rehearsal} :
    {stage : Stage} → {given : stage.Answer} → r.CanGive stage given →
      ∃ answer, Answer.at? r.rules answer stage = some given
  | .reading _, _, h => ⟨.read (.ok r.tree), congrArg some h.symm⟩
  | .uploading _, given, _ => ⟨.upload given, rfl⟩
  | .polling _ _, given, _ => ⟨.poll given, rfl⟩
  | .waiting _ _, _, _ => ⟨.elapsed, rfl⟩

theorem rules_take (r : Rehearsal) (name : Option String) (move : Move) :
    (r.take name move).rules = r.rules := by
  unfold take
  split
  · cases name <;> rfl
  · next task _ =>
    obtain ⟨_, _, _, _, _, hplaced⟩ :=
      place_job ((r.change move.attempt move.effects).noteRequest move.request?) name task
    exact hplaced

/-- A step of a submission is taken in a rehearsal as it is in a session, where all others are as
they were. -/
theorem plays_take {r : Rehearsal} {s : Session} {index : Nat} {crew : List (Nat × Job)}
    (hperm : (List.map Prod.snd crew).Perm r.jobs) (hnodup : (index :: crew.map Prod.fst).Nodup)
    (hwaits : ∀ entry ∈ crew, entry.2.Waits r.rules s entry.1) {sub : Submission}
    (hsub : s.submissions[index]? = some sub) (name : Option String)
    (hattempt : s.attempt = sub.last.attempt) : (r.take name sub.last).Plays s := by
  have hcrew := (List.nodup_cons.mp hnodup).2
  cases houtcome : sub.last.outcome with
  | returns a =>
    -- it is in the session still, but no job
    simp only [take, houtcome]
    cases name <;> exact ⟨hattempt, crew, hperm, hcrew, hwaits⟩
  | waits task =>
    let changed : Rehearsal :=
      (r.change sub.last.attempt sub.last.effects).noteRequest sub.last.request?
    obtain ⟨job, rfl, given, hplaced, hplacedAttempt, _⟩ := changed.place_job name task
    obtain ⟨answer, hanswer⟩ := exists_answer given
    have htake : r.take name sub.last = changed.place name job.task := by
      simp only [take, houtcome]
      rfl
    refine ⟨?_, ?_⟩
    · rw [htake]
      exact hattempt.trans hplacedAttempt.symm
    · rw [rules_take, htake]
      refine ⟨(index, job) :: crew, (hperm.cons job).trans hplaced.symm, hnodup, ?_⟩
      intro entry hentry
      rcases List.mem_cons.mp hentry with rfl | hentry
      · exact ⟨sub, answer, hsub, houtcome, hanswer⟩
      · exact hwaits entry hentry

/-! ## Running -/

/-- A rehearsal goes on to another, and a session goes on with it by so many renewals at most. -/
def Follows (renewals : Nat) (r r' : Rehearsal) : Prop :=
  r'.rules = r.rules ∧ ∀ s : Session, r.Plays s →
    ∃ acts s', s.run? r.rules acts = some s' ∧ acts.countP Act.renews ≤ renewals ∧ r'.Plays s'

theorem Follows.trans {m n : Nat} {r₁ r₂ r₃ : Rehearsal} (h₁ : Follows m r₁ r₂)
    (h₂ : Follows n r₂ r₃) : Follows (m + n) r₁ r₃ := by
  refine ⟨h₂.1.trans h₁.1, fun s plays => ?_⟩
  obtain ⟨acts₁, s₁, hrun₁, hcount₁, plays₁⟩ := h₁.2 s plays
  obtain ⟨acts₂, s₂, hrun₂, hcount₂, plays₂⟩ := h₂.2 s₁ plays₁
  rw [h₁.1] at hrun₂
  refine ⟨acts₁ ++ acts₂, s₂, Session.run?_append hrun₁ hrun₂, ?_, plays₂⟩
  rw [List.countP_append]
  omega

theorem Follows.mono {m n : Nat} {r r' : Rehearsal} (h : Follows m r r') (hle : m ≤ n) :
    Follows n r r' := by
  refine ⟨h.1, fun s plays => ?_⟩
  obtain ⟨acts, s', hrun, hcount, plays'⟩ := h.2 s plays
  exact ⟨acts, s', hrun, Nat.le_trans hcount hle, plays'⟩

/-- One act takes the session along. -/
theorem Follows.of_step {renewals : Nat} {r r' : Rehearsal} (hrules : r'.rules = r.rules)
    (h : ∀ s : Session, r.Plays s → ∃ act s', s.step? r.rules act = some s' ∧
      [act].countP Act.renews ≤ renewals ∧ r'.Plays s') : Follows renewals r r' := by
  refine ⟨hrules, fun s plays => ?_⟩
  obtain ⟨act, s', hstep, hcount, plays'⟩ := h s plays
  exact ⟨[act], s', Session.run?_cons.mpr ⟨s', hstep, rfl⟩, hcount, plays'⟩

/-- What a session does not know of may change. -/
theorem Follows.of_same {r r' : Rehearsal} (hrules : r'.rules = r.rules)
    (hattempt : r'.attempt = r.attempt) (hjobs : r.jobs.Perm r'.jobs) : Follows 0 r r' := by
  refine ⟨hrules, fun s plays => ⟨[], s, rfl, Nat.le_refl 0, ?_, ?_⟩⟩
  · exact plays.attempt.trans hattempt.symm
  · rw [hrules]
    exact plays.manned.perm hjobs

theorem Follows.refl (r : Rehearsal) : Follows 0 r r := .of_same rfl rfl (List.Perm.refl _)

/-- A job goes on, and the others wait. -/
theorem follows_go {r rest : Rehearsal} {job : Job} (hjobs : r.jobs.Perm (job :: rest.jobs))
    (hrules : rest.rules = r.rules) (hattempt : rest.attempt = r.attempt) :
    Follows 0 r (rest.go job) := by
  refine .of_step ((rules_take rest _ _).trans hrules) fun s plays => ?_
  obtain ⟨index, crew, ⟨sub, answer, hsub, houtcome, hanswer⟩, hperm, hnodup, hwaits⟩ :=
    (plays.manned.perm hjobs).first
  let turn : Turn :=
    ⟨some (job.task.stage, answer), s.renewals, job.task.resume r.rules job.answer s.attempt⟩
  have hturn : sub.turn? r.rules s.renewals s.attempt answer = some turn := by
    simp only [Submission.turn?, houtcome, hanswer, Option.map_some, turn]
  have hstep : s.step? r.rules (.resume index answer) = some (s.take index sub turn) := by
    simp only [Session.step?, hsub, hturn, Option.map_some]
  refine ⟨.resume index answer, s.take index sub turn, hstep, Nat.le_refl 0, ?_⟩
  have hget := fun i => Session.getElem?_take s index i sub turn hsub
  -- the others are at other places, so they wait for what they waited for
  have hothers :
      ∀ entry ∈ crew, entry.2.Waits rest.rules (s.take index sub turn) entry.1 := by
    intro entry hentry
    obtain ⟨other, given, hother, hwaiting⟩ := hwaits entry hentry
    have hne : index ≠ entry.1 := fun h =>
      (List.nodup_cons.mp hnodup).1 (h ▸ List.mem_map_of_mem hentry)
    rw [hrules]
    exact ⟨other, given, by rw [hget, if_neg hne, hother], hwaiting⟩
  have hgo : rest.go job = rest.take job.name (sub.after turn).last := by
    rw [go, hrules, hattempt, ← plays.attempt]
    rfl
  rw [hgo]
  exact plays_take hperm hnodup hothers (by rw [hget, if_pos rfl]) job.name rfl

theorem follows_next {r r' : Rehearsal} {until? : Option Nat} (h : r.next until? = some r') :
    Follows 0 r r' := by
  unfold next at h
  split at h
  · next job rest hready =>
    cases h
    refine follows_go (List.Perm.of_eq ?_) rfl rfl
    simp only [jobs, hready, List.cons_append]
  · split at h
    · cases h
    · split at h
      · next hready _ time job rest hasleep _ =>
        cases h
        refine follows_go ?_ rfl rfl
        simp only [jobs, hasleep, List.map_cons]
        exact List.perm_middle
      · cases h

theorem follows_run (until? : Option Nat) (enough : Rehearsal → Bool) (r : Rehearsal) :
    Follows 0 r (r.run until? enough) := by
  fun_induction run until? enough r with
  | case1 r _ => exact .refl r
  | case2 r _ _ => exact .refl r
  | case3 r _ r' hnext ih => exact (follows_next hnext).trans ih

theorem follows_settle (r : Rehearsal) : Follows 0 r r.settle := follows_run _ _ r

theorem follows_await (r : Rehearsal) : Follows 0 r r.await :=
  (follows_run none isBack r).trans (follows_settle _)

/-! ## What a rehearsal is told -/

/-- A submission begins, after all others. -/
theorem follows_take_submit (r : Rehearsal) (name : Option String) (file : ScanFile) :
    Follows 1 r (r.take name (r.rules.submit file r.attempt)) := by
  refine .of_step (rules_take r _ _) fun s plays =>
    ⟨.submit file, s.submit r.rules file, rfl, Nat.le_refl 1, ?_⟩
  obtain ⟨hattempt, crew, hperm, hnodup, hwaits⟩ := plays
  let sub : Submission := .begin file (s.renewals + 1) (r.rules.submit file s.attempt)
  have hsub : (s.submit r.rules file).submissions[s.submissions.length]? = some sub :=
    List.getElem?_concat_length
  -- all others began before, so the new one has a place of its own
  have hplace : ∀ entry ∈ crew, entry.1 < s.submissions.length := by
    intro entry hentry
    obtain ⟨other, _, hother, _⟩ := hwaits entry hentry
    exact (List.getElem?_eq_some_iff.mp hother).choose
  have hnew : s.submissions.length ∉ crew.map Prod.fst := by
    intro hmem
    obtain ⟨entry, hentry, hindex⟩ := List.mem_map.mp hmem
    exact absurd (hplace entry hentry) (by omega)
  rw [← hattempt]
  refine plays_take hperm (List.nodup_cons.mpr ⟨hnew, hnodup⟩) ?_ hsub name rfl
  intro entry hentry
  obtain ⟨other, given, hother, hwaiting⟩ := hwaits entry hentry
  exact ⟨other, given, (List.getElem?_append_left (hplace entry hentry)).trans hother, hwaiting⟩

/-- The attempt changes as by an act that no submission takes part in. -/
theorem follows_change {r : Rehearsal} {attempt : Attempt} {effects : List Effect} (act : Act)
    (h : ∀ s : Session, s.attempt = r.attempt → ∃ s', s.step? r.rules act = some s' ∧
      s'.attempt = attempt ∧ s'.submissions = s.submissions) :
    Follows 1 r (r.change attempt effects) := by
  refine .of_step rfl fun s plays => ?_
  obtain ⟨s', hstep, hattempt, hsubs⟩ := h s plays.attempt
  obtain ⟨crew, hperm, hnodup, hwaits⟩ := plays.manned
  refine ⟨act, s', hstep, List.countP_le_length, hattempt, crew, hperm, hnodup, ?_⟩
  intro entry hentry
  obtain ⟨sub, answer, hsub, hwaiting⟩ := hwaits entry hentry
  exact ⟨sub, answer, by rw [hsubs, hsub], hwaiting⟩

theorem follows_applyReset (r : Rehearsal) : Follows 1 r r.applyReset := by
  refine follows_change .reset fun s hattempt => ⟨s.reset r.rules, rfl, ?_, rfl⟩
  rw [← hattempt]
  rfl

theorem follows_validate (r : Rehearsal) (file : ScanFile) : Follows 1 r (r.validate file).2 := by
  refine Follows.trans ?_ (follows_settle _)
  refine follows_change (.validate file) fun s hattempt => ⟨s.validate r.rules file, rfl, ?_, rfl⟩
  rw [← hattempt]
  rfl

theorem follows_interrupt (r : Rehearsal) (file : ScanFile) : Follows 2 r (r.interrupt file) := by
  have hpaused := (follows_take_submit r none file).trans (follows_run (some r.clock) isPausing _)
  unfold interrupt
  simp only
  split
  · exact (hpaused.trans (follows_settle _)).mono (by omega)
  · exact hpaused.trans ((follows_applyReset _).trans (follows_await _))

/-- What is released goes from one place to another. -/
theorem follows_release (r : Rehearsal) (hold : String) : Follows 0 r (r.release hold) := by
  unfold release
  rw [List.partition_eq_filter_filter]
  refine Follows.trans ?_ (follows_settle _)
  refine .of_same rfl rfl ?_
  -- what is released and what is not are what was held, in another order
  have hheld := (List.filter_append_perm (fun entry => entry.1 == hold) r.held).map Prod.snd
  rw [List.map_append] at hheld
  simp only [jobs, List.append_assoc]
  refine List.Perm.append_left _ ?_
  rw [← List.append_assoc]
  exact hheld.symm.append_right _

theorem follows_advance (r : Rehearsal) (ms : Nat) : Follows 0 r (r.advance ms) := by
  have hrun := follows_run (some (r.clock + min ms longestWait)) (fun _ => false) r
  refine Follows.trans (n := 0) hrun ?_
  exact .of_same rfl rfl (List.Perm.refl _)

/-- What a rehearsal can be told. -/
inductive Cue where
  | clearRecord
  | start (name : String) (file : ScanFile)
  | submit (file : ScanFile)
  | interrupt (file : ScanFile)
  | validate (file : ScanFile)
  | reset
  | release (hold : String)
  | advance (ms : Nat)

/-- How often the attempt is renewed at most. -/
def Cue.renewals : Cue → Nat
  | .start _ _ | .submit _ | .validate _ | .reset => 1
  | .interrupt _ => 2
  | .clearRecord | .release _ | .advance _ => 0

def heed (r : Rehearsal) : Cue → Rehearsal
  | .clearRecord => r.clearRecord
  | .start name file => r.start name file
  | .submit file => r.submit file
  | .interrupt file => r.interrupt file
  | .validate file => (r.validate file).2
  | .reset => r.reset
  | .release hold => r.release hold
  | .advance ms => r.advance ms

theorem follows_heed (r : Rehearsal) (cue : Cue) : Follows cue.renewals r (r.heed cue) := by
  cases cue with
  | clearRecord => exact .of_same rfl rfl (List.Perm.refl _)
  | start name file => exact (follows_take_submit r (some name) file).trans (follows_settle _)
  | submit file => exact (follows_take_submit r none file).trans (follows_await _)
  | interrupt file => exact follows_interrupt r file
  | validate file => exact follows_validate r file
  | reset => exact (follows_applyReset r).trans (follows_settle _)
  | release hold => exact follows_release r hold
  | advance ms => exact follows_advance r ms

theorem follows_foldl_heed (r : Rehearsal) (cues : List Cue) :
    Follows (cues.map Cue.renewals).sum r (cues.foldl heed r) := by
  induction cues generalizing r with
  | nil => exact .refl r
  | cons cue cues ih => exact (follows_heed r cue).trans (ih _)

/-! ## The main results -/

section Begun

variable (rules : Rules) (tree : Files.Tree) (uploads : List (Scripted Receipt))
  (polls : List (Scripted Response)) (cues : List Cue)

theorem plays_begin : (begin rules tree uploads polls).Plays (.start rules) :=
  ⟨rfl, [], List.Perm.refl _, List.nodup_nil, fun _ h => nomatch h⟩

/-- Wherever a rehearsal gets to, a session gets to. -/
theorem session_of_rehearsal :
    ∃ acts s, (Session.start rules).run? rules acts = some s ∧
      acts.countP Act.renews ≤ (cues.map Cue.renewals).sum ∧
      (cues.foldl heed (begin rules tree uploads polls)).Plays s :=
  (follows_foldl_heed (begin rules tree uploads polls) cues).2 _ (plays_begin ..)

/-- So whatever a rehearsal is told, its attempt is consistent. -/
theorem attempt_consistent (few : (cues.map Cue.renewals).sum < UInt64.size) :
    (cues.foldl heed (begin rules tree uploads polls)).attempt.Consistent rules.policy := by
  obtain ⟨acts, s, hrun, hcount, plays⟩ := session_of_rehearsal rules tree uploads polls cues
  -- the attempt is the last that was published, and all that were are consistent
  have hlast := Session.latest_of_run? hrun
  have hshown := (Session.kept_of_run? hrun (by omega)).published s.attempt
    (List.mem_of_getLast? hlast)
  rw [← plays.attempt]
  exact hshown.consistent

end Begun

end Rehearsal

end ScanClient
