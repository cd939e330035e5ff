import Mathlib.Data.List.Chain
import ScanClient.Proofs.Outcome

/-!
# Transitions

Which values of an attempt may follow one another. A renewal makes the next generation, in which
there is nothing but the file it has been given. Within a generation a value changes into the next
by one step on the way from the validation of the file to the end of the scan, and only what belongs
to that step changes.
-/

namespace ScanClient

/-- The file an act begins an attempt for. -/
def Act.file? : Act → Option ScanFile
  | .submit file | .validate file => some file
  | .reset | .resume _ _ => none

namespace Attempt

/-- What may follow a value of the attempt. The generation of the value is the number of renewals
before it, so it is also the place of the renewal that comes next. -/
inductive Transition (policy : PollPolicy) (renewals : List Act) (a : Attempt) :
    Attempt → Prop where
  -- renewals: nothing is left of the value but the number of its generation
  | resets {generation : UInt64} (next : generation.toNat = a.generation.toNat + 1)
      (act_eq : renewals[a.generation.toNat]? = some .reset) :
      Transition policy renewals a
        { generation := generation, file := none, phase := .idle, scanId := none,
          attemptCount := 0, maxAttempts := policy.maxAttempts, error := none, result := none }
  | begins {generation : UInt64} {act : Act} {file : ScanFile}
      (next : generation.toNat = a.generation.toNat + 1)
      (act_eq : renewals[a.generation.toNat]? = some act) (given : act.file? = some file) :
      Transition policy renewals a
        { generation := generation, file := some ⟨file.name, file.size⟩, phase := .validating,
          scanId := none, attemptCount := 0, maxAttempts := policy.maxAttempts, error := none,
          result := none }
  -- steps within the generation, each with all that it changes
  | selects (phase_eq : a.phase = .validating) :
      Transition policy renewals a { a with phase := .idle }
  | uploads (phase_eq : a.phase = .validating) :
      Transition policy renewals a { a with phase := .uploading }
  | accepts (phase_eq : a.phase = .uploading) (absent : a.scanId = none) (scanId : String) :
      Transition policy renewals a { a with phase := .polling, scanId := some scanId }
  | polls (phase_eq : a.phase = .polling) :
      Transition policy renewals a { a with attemptCount := a.attemptCount + 1 }
  | completes (phase_eq : a.phase = .polling) (result : ScanResult) :
      Transition policy renewals a { a with phase := .completed, result := some result }
  | fails (phase_eq : a.phase = .validating ∨ a.phase = .uploading ∨ a.phase = .polling)
      (failure : Failure) :
      Transition policy renewals a { a with phase := .failed, error := some failure }

/-- What a value of the attempt says of all later ones. If one of them has the same generation, the
value was not the last of it; what it knows of the scan is not forgotten. -/
structure Precedes (a b : Attempt) : Prop where
  generation_le : a.generation.toNat ≤ b.generation.toNat
  phase_ne : a.generation = b.generation →
    a.phase ≠ .idle ∧ a.phase ≠ .completed ∧ a.phase ≠ .failed
  scanId_eq : a.generation = b.generation →
    ∀ scanId, a.scanId = some scanId → b.scanId = some scanId
  attemptCount_le : a.generation = b.generation → a.attemptCount ≤ b.attemptCount

theorem Precedes.trans {a b c : Attempt} (hab : a.Precedes b) (hbc : b.Precedes c) :
    a.Precedes c := by
  -- generations do not go back, so if the ends have the same one, so has what is between
  have hsame : a.generation = c.generation →
      a.generation = b.generation ∧ b.generation = c.generation := by
    intro h
    have hle := hab.generation_le
    have hle' := hbc.generation_le
    have hba : b.generation = a.generation := by
      apply UInt64.toNat_inj.mp
      rw [← h] at hle'
      omega
    exact ⟨hba.symm, hba.trans h⟩
  refine ⟨Nat.le_trans hab.generation_le hbc.generation_le, ?_, ?_, ?_⟩
  · intro h
    exact hab.phase_ne (hsame h).1
  · intro h scanId hscanId
    have hb := hab.scanId_eq (hsame h).1 scanId hscanId
    exact hbc.scanId_eq (hsame h).2 scanId hb
  · intro h
    exact Nat.le_trans (hab.attemptCount_le (hsame h).1) (hbc.attemptCount_le (hsame h).2)

instance : Trans Precedes Precedes Precedes := ⟨Precedes.trans⟩

/-- A value that another one is made of within its generation. -/
theorem Precedes.of_same {a b : Attempt} (hgeneration : a.generation = b.generation)
    (hphase : a.phase = .validating ∨ a.phase = .uploading ∨ a.phase = .polling)
    (hscanId : ∀ scanId, a.scanId = some scanId → b.scanId = some scanId)
    (hcount : a.attemptCount ≤ b.attemptCount) : a.Precedes b where
  generation_le := by rw [hgeneration]
  phase_ne _ := by rcases hphase with h | h | h <;> rw [h] <;> decide
  scanId_eq _ := hscanId
  attemptCount_le _ := hcount

theorem Precedes.of_next {a b : Attempt}
    (next : b.generation.toNat = a.generation.toNat + 1) : a.Precedes b := by
  have hne : a.generation ≠ b.generation := by
    intro h
    rw [h] at next
    omega
  exact ⟨by omega, fun h => absurd h hne, fun h => absurd h hne, fun h => absurd h hne⟩

theorem Transition.precedes {policy : PollPolicy} {renewals : List Act} {a b : Attempt}
    (h : Transition policy renewals a b) : a.Precedes b := by
  cases h with
  | resets next act_eq => exact .of_next next
  | begins next act_eq given => exact .of_next next
  | selects phase_eq => exact .of_same rfl (.inl phase_eq) (fun _ h => h) (Nat.le_refl _)
  | uploads phase_eq => exact .of_same rfl (.inl phase_eq) (fun _ h => h) (Nat.le_refl _)
  | accepts phase_eq absent scanId =>
    refine .of_same rfl (.inr (.inl phase_eq)) (fun given h => ?_) (Nat.le_refl _)
    rw [absent] at h
    cases h
  | polls phase_eq => exact .of_same rfl (.inr (.inr phase_eq)) (fun _ h => h) (Nat.le_succ _)
  | completes phase_eq result =>
    exact .of_same rfl (.inr (.inr phase_eq)) (fun _ h => h) (Nat.le_refl _)
  | fails phase_eq failure => exact .of_same rfl phase_eq (fun _ h => h) (Nat.le_refl _)

variable {policy : PollPolicy} {renewals : List Act} {a : Attempt}

/-- A failure takes away a result, but there is none yet. -/
theorem Transition.of_fail (hphase : a.phase = .validating ∨ a.phase = .uploading ∨ a.phase = .polling)
    (hresult : a.result = none) (failure : Failure) :
    Transition policy renewals a (a.fail failure) := by
  have heq : a.fail failure = { a with phase := .failed, error := some failure } := by
    unfold Attempt.fail
    rw [← hresult]
  rw [heq]
  exact .fails hphase failure

/-- And a result takes away an error. -/
theorem Transition.of_complete (hphase : a.phase = .polling) (herror : a.error = none)
    (result : ScanResult) : Transition policy renewals a (a.complete result) := by
  have heq : a.complete result = { a with phase := .completed, result := some result } := by
    unfold Attempt.complete
    rw [← herror]
  rw [heq]
  exact .completes hphase result

end Attempt

open Attempt

/-! ## Steps -/

section Steps

variable {rules : Rules} {renewals : List Act} {file : ScanFile} {generation : UInt64}

/-- A submission that waits has left an attempt that goes on. -/
theorem Standing.phase_left {task : Task} {left : Attempt}
    (standing : Standing rules file generation task left) :
    left.phase = .validating ∨ left.phase = .uploading ∨ left.phase = .polling := by
  rw [standing.left_eq]
  cases task.stage with
  | reading selected => exact .inl rfl
  | uploading contents => exact .inr (.inl rfl)
  | polling scanId number => exact .inr (.inr rfl)
  | waiting scanId number => exact .inr (.inr rfl)

theorem Standing.unfinished_left {task : Task} {left : Attempt}
    (standing : Standing rules file generation task left) :
    left.error = none ∧ left.result = none := by
  rw [standing.left_eq]
  cases task.stage <;> exact ⟨rfl, rfl⟩

/-- What a step publishes goes on from what the steps before have left. -/
theorem Standing.isChain_published {task : Task} {left : Attempt}
    (standing : Standing rules file generation task left) {given : task.stage.Answer} {move : Move}
    (h : Advance rules task left task.stage given move) :
    (left :: publications move.effects).IsChain (Transition rules.policy renewals) := by
  have hphase := standing.phase_left
  obtain ⟨herror, hresult⟩ := standing.unfinished_left
  obtain ⟨taskGeneration, filename, stage⟩ := task
  have hleft : left = stage.leaves (rules.begun file generation) := standing.left_eq
  cases h with
  | fails h => exact List.isChain_pair.mpr (.of_fail hphase hresult _)
  | uploads selected contents =>
    apply List.isChain_pair.mpr
    apply Transition.uploads
    rw [hleft]
    rfl
  | accepted contents h =>
    -- the upload was accepted, and the first poll follows at once
    refine .cons_cons (.accepts ?_ ?_ _) (List.isChain_pair.mpr ?_)
    · rw [hleft]
      rfl
    · rw [hleft]
      rfl
    · rw [hleft]
      exact .polls rfl
  | pauses scanId h room => exact .singleton _
  | polls scanId room =>
    apply List.isChain_pair.mpr
    rw [hleft]
    exact .polls rfl
  | completes number status h =>
    apply List.isChain_pair.mpr
    refine .of_complete ?_ herror _
    rw [hleft]
    rfl

theorem Opening.isChain_published {a : Attempt} {move : Move}
    (begins : Transition rules.policy renewals a (rules.begun file generation))
    (h : Opening rules file generation move) :
    (a :: publications move.effects).IsChain (Transition rules.policy renewals) := by
  cases h with
  | rejected h =>
    exact .cons_cons begins (List.isChain_pair.mpr (.of_fail (.inl rfl) rfl _))
  | inMemory checked h advance =>
    exact .cons_cons begins ((rules.standing_begun generation checked).isChain_published advance)
  | onDisk checked h => exact List.isChain_pair.mpr begins

end Steps

/-! ## Sessions -/

namespace Session

/-- As long as generations have not come round, they are the numbers of renewals. -/
theorem Sound.toNat_generation {s : Session} (sound : s.Sound) (few : s.renewals < UInt64.size) :
    s.attempt.generation.toNat = s.renewals := by
  rw [sound.generation]
  exact UInt64.toNat_ofNat_of_lt' few

theorem Sound.toNat_generation_succ {s : Session} (sound : s.Sound)
    (few : s.renewals + 1 < UInt64.size) :
    (s.attempt.generation + 1).toNat = s.attempt.generation.toNat + 1 := by
  rw [sound.generation_succ, sound.toNat_generation (Nat.lt_of_succ_lt few)]
  exact UInt64.toNat_ofNat_of_lt' few

/-- What an act publishes goes on from the attempt it finds. -/
def Extends (policy : PollPolicy) (renewals : List Act) (s s' : Session) : Prop :=
  ∃ shown, s'.published = s.published ++ shown ∧
    (s.attempt :: shown).IsChain (Transition policy renewals)

theorem Sound.extends_renewal {rules : Rules} {renewals : List Act} {s s' : Session}
    (sound : s.Sound) (few : s.renewals + 1 < UInt64.size) {act : Act}
    (hact : act.renews = true) (hplace : renewals[s.renewals]? = some act)
    (h : s.step? rules act = some s') : Extends rules.policy renewals s s' := by
  have next := sound.toNat_generation_succ few
  rw [← sound.toNat_generation (Nat.lt_of_succ_lt few)] at hplace
  cases act with
  | submit file =>
    cases h
    exact ⟨_, rfl, (rules.opening_submit file s.attempt).isChain_published
      (.begins next hplace rfl)⟩
  | validate file =>
    cases h
    cases checked : rules.limits.check file.name file.size with
    | ok _ =>
      rw [validate_ok s checked]
      refine ⟨_, rfl, .cons_cons (.begins next hplace rfl) (List.isChain_pair.mpr ?_)⟩
      exact .selects rfl
    | error rejection =>
      rw [validate_error s checked]
      refine ⟨_, rfl, .cons_cons (.begins next hplace rfl) (List.isChain_pair.mpr ?_)⟩
      exact .of_fail (.inl rfl) rfl _
  | reset =>
    cases h
    exact ⟨_, rfl, List.isChain_pair.mpr (.resets next hplace)⟩
  | resume index answer => cases hact

theorem Kept.extends_take {rules : Rules} {renewals : List Act} {s : Session}
    (kept : s.Kept rules) (timely : s.Timely) {index : Nat} {sub : Submission} {turn : Turn}
    {answer : Answer} (hsub : s.submissions[index]? = some sub)
    (hturn : sub.turn? rules s.renewals s.attempt answer = some turn) :
    Extends rules.policy renewals s (s.take index sub turn) := by
  rcases kept.sound.take_cases kept.led timely hsub hturn with ⟨hbegun, _⟩ | ⟨_, _, htake⟩
  · -- the submission finds the attempt as it left it
    obtain ⟨undisturbed, hleft⟩ := kept.led sub (List.mem_of_getElem? hsub) hbegun
    rw [hleft] at hturn
    obtain ⟨task, given, move, _, standing, _, advance, rfl⟩ := undisturbed.advance hturn
    refine ⟨publications move.effects, rfl, ?_⟩
    rw [hleft]
    exact standing.isChain_published advance
  · rw [htake]
    exact ⟨[], (List.append_nil _).symm, .singleton _⟩

theorem Latest.isChain {policy : PollPolicy} {renewals : List Act} {s s' : Session}
    (latest : s.Latest) (chain : s.published.IsChain (Transition policy renewals))
    (h : Extends policy renewals s s') : s'.published.IsChain (Transition policy renewals) := by
  obtain ⟨shown, hpublished, hshown⟩ := h
  rw [hpublished]
  refine chain.append hshown.tail ?_
  intro a ha b hb
  -- the last value before is the attempt that the first value after goes on from
  rw [show s.published.getLast? = some s.attempt from latest, Option.mem_some] at ha
  subst ha
  cases shown with
  | nil => cases hb
  | cons first rest =>
    cases hb
    exact (List.isChain_cons_cons.mp hshown).1

/-- All values published in a run follow one another, where `renewals` are all renewals of the
session, those before the run included. -/
theorem Kept.isChain_run {rules : Rules} {renewals : List Act} {s s' : Session} {acts : List Act}
    (kept : s.Kept rules) (latest : s.Latest)
    (chain : s.published.IsChain (Transition rules.policy renewals))
    (hrest : renewals.drop s.renewals = acts.filter Act.renews)
    (few : s.renewals + acts.countP Act.renews < UInt64.size)
    (h : s.run? rules acts = some s') :
    s'.published.IsChain (Transition rules.policy renewals) := by
  induction acts generalizing s with
  | nil =>
    cases h
    exact chain
  | cons act acts ih =>
    obtain ⟨next, hnext, hrun⟩ := run?_cons.mp h
    have hrenewals := renewals_step? hnext
    rw [List.countP_cons] at few
    have timely : s.Timely := timely_of_lt (by omega)
    have keptNext := kept.step timely hnext
    have latestNext := latest.step hnext
    rcases step?_cases hnext with ⟨hact, _⟩ | ⟨_, _, _, _, rfl, hsub, hturn, rfl⟩
    · rw [if_pos hact] at hrenewals few
      rw [List.filter_cons_of_pos hact] at hrest
      -- the renewal is the first of the rest
      have hplace : renewals[s.renewals]? = some act := by
        rw [← List.head?_drop, hrest]
        rfl
      have hrest' : renewals.drop next.renewals = acts.filter Act.renews := by
        rw [hrenewals, ← List.tail_drop, hrest]
        rfl
      have hextends := kept.sound.extends_renewal (by omega) hact hplace hnext
      exact ih keptNext latestNext (latest.isChain chain hextends) hrest' (by omega) hrun
    · have hextends : Extends rules.policy renewals s _ := kept.extends_take timely hsub hturn
      exact ih keptNext latestNext (latest.isChain chain hextends) hrest few hrun

end Session

/-! ## The main result -/

/-- Whatever happens in whatever order, as long as the attempt has been renewed fewer than `2 ^ 64`
times, each value of it that has been published follows the one before by a transition. So no value
is left within its generation that is idle, completed or failed; a scan keeps its identifier, and
polls are only ever added. -/
theorem published_transitions (rules : Rules) {acts : List Act} {s : Session}
    (hrun : (Session.start rules).run? rules acts = some s)
    (few : acts.countP Act.renews < UInt64.size) :
    s.published.IsChain (Transition rules.policy (acts.filter Act.renews)) ∧
      s.published.Pairwise Precedes := by
  have chain : s.published.IsChain (Transition rules.policy (acts.filter Act.renews)) := by
    refine (Session.kept_start rules).isChain_run (Session.latest_start rules) (.singleton _)
      rfl ?_ hrun
    rw [Session.start, Nat.zero_add]
    exact few
  exact ⟨chain, (chain.imp fun _ _ h => h.precedes).pairwise⟩

/-- A scan that is given up, whose receipt comes late, and then another. -/
def Session.lateScan : List Act :=
  [.validate sampleFile, .submit sampleFile, .reset, .resume 0 (.upload (.ok ⟨some "6"⟩)),
    .submit sampleFile, .resume 1 (.upload (.ok ⟨some "7"⟩)),
    .resume 1 (.poll (.ok sampleResponse))]

/-- What is published then follows the four renewals, and the late receipt does not show. -/
theorem lateScan_transitions :
    ∃ s, (Session.start .standard).run? .standard Session.lateScan = some s ∧
      Session.lateScan.countP Act.renews < UInt64.size ∧
      s.published.map (·.phase) = [.idle, .validating, .idle, .validating, .uploading, .idle,
        .validating, .uploading, .polling, .polling, .completed] ∧
      s.published.IsChain (Transition Rules.standard.policy
        [.validate sampleFile, .submit sampleFile, .reset, .submit sampleFile]) ∧
      s.published.Pairwise Precedes := by
  have hphases : ((Session.start .standard).run? .standard Session.lateScan).map
      (·.published.map (·.phase)) = some [.idle, .validating, .idle, .validating, .uploading,
        .idle, .validating, .uploading, .polling, .polling, .completed] := by
    decide +kernel
  obtain ⟨s, hrun, hphases⟩ := Option.map_eq_some_iff.mp hphases
  obtain ⟨chain, precedes⟩ := published_transitions .standard hrun (by decide)
  exact ⟨s, hrun, by decide, hphases, chain, precedes⟩

end ScanClient
