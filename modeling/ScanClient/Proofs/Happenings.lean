import Mathlib.Data.List.Induction
import ScanClient.Proofs.Return

/-!
# What happens in a run

Who moves the attempt on, and what a submission waits for when it is superseded, can be read off the
acts of a run, one after another. A submission keeps account of both: when it has returned, it shows
the value it has ended its attempt with, or what it was suspended for when another renewal came.
-/

namespace ScanClient

/-- Whether an act is a step of the submission at a place, the first or a later one. -/
def Act.IsStepOf (s : Session) (index : Nat) : Act → Prop
  | .submit _ => index = s.submissions.length
  | .resume i _ => i = index
  | .validate _ | .reset => False

theorem Act.answerFor?_of_not {s : Session} {index : Nat} {act : Act} (h : ¬act.IsStepOf s index) :
    act.answerFor? index = none := by
  cases act with
  | resume i answer => exact if_neg h
  | submit file => rfl
  | validate file => rfl
  | reset => rfl

namespace Session

/-- In a run an act leads from one session to the next. -/
def Happens (rules : Rules) (acts : List Act) (s : Session) (act : Act) (s' : Session) : Prop :=
  ∃ before after, acts = before ++ act :: after ∧
    (start rules).run? rules before = some s ∧ s.step? rules act = some s'

/-- In a run the submission at a place moves the attempt to another value. -/
def Moves (rules : Rules) (acts : List Act) (index : Nat) (a : Attempt) : Prop :=
  ∃ s act s', Happens rules acts s act s' ∧ act.IsStepOf s index ∧
    s'.attempt ≠ s.attempt ∧ s'.attempt = a

/-- The submission at a place is suspended so, and has not been superseded. -/
def Suspends (s : Session) (index : Nat) (kind : Suspension) : Prop :=
  ∃ sub task, s.submissions[index]? = some sub ∧ sub.begun = s.renewals ∧
    sub.outcome = .waits task ∧ task.stage.suspension = kind

/-- In a run the submission at a place is superseded while it is suspended so. -/
def Supersedes (rules : Rules) (acts : List Act) (index : Nat) (kind : Suspension) : Prop :=
  ∃ s act s', Happens rules acts s act s' ∧ act.renews = true ∧ s.Suspends index kind

section Concat

variable {rules : Rules} {acts : List Act} {act : Act} {s s' : Session}

/-- What happens in a longer run happens before, or last. -/
theorem happens_concat (hrun : (start rules).run? rules acts = some s)
    (hstep : s.step? rules act = some s') {u v : Session} {other : Act} :
    Happens rules (acts ++ [act]) u other v ↔
      Happens rules acts u other v ∨ u = s ∧ other = act ∧ v = s' := by
  constructor
  · rintro ⟨before, after, hacts, hu, hv⟩
    rcases List.eq_nil_or_concat after with rfl | ⟨after, last, rfl⟩
    · obtain ⟨rfl, hlast⟩ := List.append_inj' hacts rfl
      cases hlast
      cases hrun.symm.trans hu
      cases hstep.symm.trans hv
      exact .inr ⟨rfl, rfl, rfl⟩
    · rw [List.concat_eq_append, ← List.cons_append, ← List.append_assoc] at hacts
      exact .inl ⟨before, after, (List.append_inj' hacts rfl).1, hu, hv⟩
  · rintro (⟨before, after, rfl, hu, hv⟩ | ⟨rfl, rfl, rfl⟩)
    · exact ⟨before, after ++ [act], by rw [List.append_assoc]; rfl, hu, hv⟩
    · exact ⟨acts, [], rfl, hrun, hstep⟩

theorem exists_happens_concat {P : Session → Act → Session → Prop}
    (hrun : (start rules).run? rules acts = some s) (hstep : s.step? rules act = some s') :
    (∃ u other v, Happens rules (acts ++ [act]) u other v ∧ P u other v) ↔
      (∃ u other v, Happens rules acts u other v ∧ P u other v) ∨ P s act s' := by
  simp only [happens_concat hrun hstep, or_and_right, exists_or]
  refine or_congr_right ⟨?_, fun h => ⟨s, act, s', ⟨rfl, rfl, rfl⟩, h⟩⟩
  rintro ⟨_, _, _, ⟨rfl, rfl, rfl⟩, h⟩
  exact h

theorem moves_concat (hrun : (start rules).run? rules acts = some s)
    (hstep : s.step? rules act = some s') {index : Nat} {a : Attempt} :
    Moves rules (acts ++ [act]) index a ↔
      Moves rules acts index a ∨
        act.IsStepOf s index ∧ s'.attempt ≠ s.attempt ∧ s'.attempt = a :=
  exists_happens_concat hrun hstep

theorem supersedes_concat (hrun : (start rules).run? rules acts = some s)
    (hstep : s.step? rules act = some s') {index : Nat} {kind : Suspension} :
    Supersedes rules (acts ++ [act]) index kind ↔
      Supersedes rules acts index kind ∨ act.renews = true ∧ s.Suspends index kind :=
  exists_happens_concat hrun hstep

theorem not_happens_nil {u v : Session} : ¬Happens rules [] u act v := by
  rintro ⟨before, after, hacts, _⟩
  cases before <;> cases hacts

end Concat

end Session

/-! ## What a submission shows of it -/

namespace Submission

/-- The answers that have come for a submission. -/
def answers (sub : Submission) : List Answer := sub.turns.filterMap fun turn => turn.cause.map (·.2)

/-- A submission has returned, and what it has returned is of its own generation. -/
def Ended (sub : Submission) (a : Attempt) : Prop :=
  sub.outcome = .returns a ∧ a.generation = sub.generation

/-- What a submission was suspended for before its last step. -/
def lastSuspension? (sub : Submission) : Option Suspension :=
  sub.turns.getLast?.bind fun turn => turn.cause.map (·.1.suspension)

/-- A submission has been superseded while it was suspended so, after so many renewals. -/
def SupersededIn (sub : Submission) (renewals : Nat) (kind : Suspension) : Prop :=
  match sub.outcome with
  | .waits task => sub.begun < renewals ∧ task.stage.suspension = kind
  | .returns a => a.generation ≠ sub.generation ∧ sub.lastSuspension? = some kind

variable {rules : Rules} {sub : Submission} {renewals : Nat} {kind : Suspension}

theorem supersededIn_waits {task : Task} (h : sub.outcome = .waits task) :
    sub.SupersededIn renewals kind ↔ sub.begun < renewals ∧ task.stage.suspension = kind := by
  rw [SupersededIn, h]

theorem supersededIn_returns {a : Attempt} (h : sub.outcome = .returns a) :
    sub.SupersededIn renewals kind ↔
      a.generation ≠ sub.generation ∧ sub.lastSuspension? = some kind := by
  rw [SupersededIn, h]

theorem not_ended_waits {task : Task} (h : sub.outcome = .waits task) (a : Attempt) :
    ¬sub.Ended a := by
  rintro ⟨hreturns, _⟩
  cases h.symm.trans hreturns

theorem not_ended_of_ne {a : Attempt} (h : sub.outcome = .returns a)
    (hother : a.generation ≠ sub.generation) (b : Attempt) : ¬sub.Ended b := by
  rintro ⟨hreturns, hown⟩
  cases h.symm.trans hreturns
  exact hother hown

theorem answers_after {a : Attempt} {answer : Answer} {turn : Turn}
    (h : sub.turn? rules renewals a answer = some turn) :
    (sub.after turn).answers = sub.answers ++ [answer] := by
  obtain ⟨task, given, _, _, rfl⟩ := turn?_eq_some h
  simp only [answers, after, List.filterMap_append]
  rfl

theorem lastSuspension?_after {a : Attempt} {answer : Answer} {turn : Turn} {task : Task}
    (houtcome : sub.outcome = .waits task) (h : sub.turn? rules renewals a answer = some turn) :
    (sub.after turn).lastSuspension? = some task.stage.suspension := by
  obtain ⟨task', given, houtcome', _, rfl⟩ := turn?_eq_some h
  cases houtcome.symm.trans houtcome'
  simp only [lastSuspension?, after, List.getLast?_concat]
  rfl

end Submission

/-! ## Submissions that have not been disturbed -/

theorem Standing.isTerminal_left {rules : Rules} {file : ScanFile} {generation : UInt64}
    {task : Task} {left : Attempt} (standing : Standing rules file generation task left) :
    left.phase.isTerminal = false := by
  rcases standing.phase_left with hphase | hphase | hphase <;> rw [hphase] <;> rfl

namespace Undisturbed

variable {rules : Rules} {sub : Submission}

theorem generation_left (h : Undisturbed rules sub) : sub.left.generation = sub.generation := by
  cases h with
  | begins file h => exact (rules.opening_submit file _).generation.trans h
  | goesOn h hturn =>
    obtain ⟨task, given, move, _, standing, _, advance, rfl⟩ := h.advance hturn
    exact advance.generation.trans standing.generation_left

/-- A submission has left the attempt at its end when it has returned, and only then. -/
theorem ended_iff (h : Undisturbed rules sub) {a : Attempt} (hover : a.phase.isTerminal = true) :
    sub.left = a ↔ sub.Ended a := by
  cases houtcome : sub.outcome with
  | waits task =>
    have hleft := (h.standing houtcome).isTerminal_left
    refine iff_of_false (fun heq => ?_) (Submission.not_ended_waits houtcome a)
    cases hover.symm.trans (heq ▸ hleft)
  | returns b =>
    obtain rfl : b = sub.left := (h.concludes b houtcome).1
    constructor
    · rintro rfl
      exact ⟨houtcome, h.generation_left⟩
    · rintro ⟨hreturns, _⟩
      exact Outcome.returns.inj (houtcome.symm.trans hreturns)

/-- It has not been superseded before the renewal that follows its own. -/
theorem not_supersededIn (h : Undisturbed rules sub) (kind : Suspension) :
    ¬sub.SupersededIn sub.begun kind := by
  cases houtcome : sub.outcome with
  | waits task =>
    rw [Submission.supersededIn_waits houtcome]
    exact fun hlate => Nat.lt_irrefl _ hlate.1
  | returns b =>
    obtain rfl : b = sub.left := (h.concludes b houtcome).1
    rw [Submission.supersededIn_returns houtcome]
    exact fun hlate => hlate.1 h.generation_left

end Undisturbed

/-! ## The account of a run -/

/-- What a run does with the submission at a place is what the submission shows of it. -/
structure Submission.Accounted (rules : Rules) (acts : List Act) (renewals index : Nat)
    (sub : Submission) : Prop where
  answers : acts.filterMap (Act.answerFor? index) = sub.answers
  moves : ∀ a, a.phase.isTerminal = true → (Session.Moves rules acts index a ↔ sub.Ended a)
  supersedes : ∀ kind, Session.Supersedes rules acts index kind ↔ sub.SupersededIn renewals kind

namespace Session

/-- A run does nothing with the submission at a place. -/
structure Idle (rules : Rules) (acts : List Act) (index : Nat) : Prop where
  answers : acts.filterMap (Act.answerFor? index) = []
  moves : ∀ a, ¬Moves rules acts index a
  supersedes : ∀ kind, ¬Supersedes rules acts index kind

/-- A run does with all submissions what they show, and nothing where there is none. -/
structure Accounts (rules : Rules) (acts : List Act) (s : Session) : Prop where
  present : ∀ (index : Nat) (sub : Submission), s.submissions[index]? = some sub →
    sub.Accounted rules acts s.renewals index
  absent : ∀ index, s.submissions[index]? = none → Idle rules acts index

theorem accounts_start (rules : Rules) : Accounts rules [] (start rules) where
  present _ _ h := nomatch h
  absent _ _ :=
    { answers := rfl
      moves _ := fun ⟨_, _, _, happens, _⟩ => not_happens_nil happens
      supersedes _ := fun ⟨_, _, _, happens, _⟩ => not_happens_nil happens }

section Step

variable {rules : Rules} {acts : List Act} {act : Act} {s s' : Session} {index : Nat}

theorem filterMap_answerFor?_concat (hnot : ¬act.IsStepOf s index) :
    (acts ++ [act]).filterMap (Act.answerFor? index) = acts.filterMap (Act.answerFor? index) := by
  rw [List.filterMap_append, List.filterMap_cons_none (Act.answerFor?_of_not hnot)]
  exact List.append_nil _

/-- Where an act leaves the submission, it is only superseded, if at all. -/
theorem accounted_of_not (hrun : (start rules).run? rules acts = some s)
    (hstep : s.step? rules act = some s') {sub : Submission}
    (hsub : s.submissions[index]? = some sub)
    (hnot : ¬act.IsStepOf s index) (accounted : sub.Accounted rules acts s.renewals index) :
    sub.Accounted rules (acts ++ [act]) s'.renewals index where
  answers := (filterMap_answerFor?_concat hnot).trans accounted.answers
  moves a hover := by
    rw [moves_concat hrun hstep, ← accounted.moves a hover]
    exact or_iff_left fun h => hnot h.1
  supersedes kind := by
    rw [supersedes_concat hrun hstep, accounted.supersedes, renewals_step? hstep]
    cases houtcome : sub.outcome with
    | waits task =>
      have hsuspends : s.Suspends index kind ↔
          sub.begun = s.renewals ∧ task.stage.suspension = kind := by
        constructor
        · rintro ⟨other, waiting, hother, hbegun, hwaiting, hkind⟩
          cases hsub.symm.trans hother
          cases houtcome.symm.trans hwaiting
          exact ⟨hbegun, hkind⟩
        · rintro ⟨hbegun, hkind⟩
          exact ⟨sub, task, hsub, hbegun, houtcome, hkind⟩
      rw [Submission.supersededIn_waits houtcome, Submission.supersededIn_waits houtcome,
        hsuspends]
      cases act.renews with
      | true =>
        simp only [if_true, true_and, Nat.lt_succ_iff_lt_or_eq, or_and_right]
      | false => simp
    | returns a =>
      have hsuspends : ¬s.Suspends index kind := by
        rintro ⟨other, waiting, hother, _, hwaiting, _⟩
        cases hsub.symm.trans hother
        cases houtcome.symm.trans hwaiting
      rw [Submission.supersededIn_returns houtcome, Submission.supersededIn_returns houtcome]
      exact or_iff_left fun h => hsuspends h.2

theorem idle_of_not (hrun : (start rules).run? rules acts = some s)
    (hstep : s.step? rules act = some s') (hsub : s.submissions[index]? = none)
    (hnot : ¬act.IsStepOf s index) (idle : Idle rules acts index) :
    Idle rules (acts ++ [act]) index where
  answers := (filterMap_answerFor?_concat hnot).trans idle.answers
  moves a := by
    rw [moves_concat hrun hstep]
    exact not_or_intro (idle.moves a) fun h => hnot h.1
  supersedes kind := by
    rw [supersedes_concat hrun hstep]
    refine not_or_intro (idle.supersedes kind) ?_
    rintro ⟨_, sub, _, hother, _⟩
    cases hsub.symm.trans hother

/-- An act leaves the submissions at other places as they are. -/
theorem getElem?_of_not (hstep : s.step? rules act = some s') (hnot : ¬act.IsStepOf s index) :
    s'.submissions[index]? = s.submissions[index]? := by
  cases act with
  | submit file =>
    cases hstep
    simp only [submit]
    rcases Nat.lt_or_gt_of_ne hnot with hlt | hgt
    · exact List.getElem?_append_left hlt
    · rw [List.getElem?_eq_none (Nat.le_of_lt hgt),
        List.getElem?_eq_none (by rw [List.length_append]; exact hgt)]
  | validate file =>
    cases hstep
    rfl
  | reset =>
    cases hstep
    rfl
  | resume i answer =>
    obtain ⟨sub, turn, hsub, _, rfl⟩ := step?_resume hstep
    rw [getElem?_take s i index sub turn hsub]
    exact if_neg hnot

end Step

section OwnStep

variable {rules : Rules} {acts : List Act} {s s' : Session} {index : Nat} {sub : Submission}

/-- One that was superseded before its step leaves the attempt and returns it. -/
theorem Sound.returns_superseded (sound : s.Sound) (timely : s.Timely)
    (hmem : sub ∈ s.submissions) (hlt : sub.begun < s.renewals) {turn : Turn} {answer : Answer}
    (hturn : sub.turn? rules s.renewals s.attempt answer = some turn) :
    turn.move.attempt = s.attempt ∧ (sub.after turn).outcome = .returns s.attempt := by
  have hnear := timely sub hmem (Submission.inFlight_of_turn? hturn)
  obtain ⟨events, hmove⟩ := sound.superseded hmem hlt hnear hturn
  rw [Submission.outcome, Submission.after, hmove]
  exact ⟨rfl, rfl⟩

/-- A submission that steps moves the attempt to what it has ended with, unless it was superseded
or has not ended. -/
theorem Kept.moved_iff (kept : s.Kept rules) (timely : s.Timely) {turn : Turn} {answer : Answer}
    (hsub : s.submissions[index]? = some sub)
    (hturn : sub.turn? rules s.renewals s.attempt answer = some turn) {a : Attempt}
    (hover : a.phase.isTerminal = true) :
    turn.move.attempt ≠ s.attempt ∧ turn.move.attempt = a ↔ (sub.after turn).Ended a := by
  have hmem := List.mem_of_getElem? hsub
  rcases kept.sound.take_cases kept.led timely hsub hturn with ⟨hbegun, next⟩ | ⟨hlt, hother, _⟩
  · rw [← next.ended_iff hover]
    refine and_iff_right_of_imp fun hleft heq => ?_
    -- before the step the attempt was not over yet
    obtain ⟨undisturbed, hattempt⟩ := kept.led sub hmem hbegun
    rw [hattempt] at hturn
    obtain ⟨task, _, _, _, standing, _⟩ := undisturbed.advance hturn
    have hbusy := standing.isTerminal_left
    rw [← hattempt, ← heq, hleft, hover] at hbusy
    cases hbusy
  · obtain ⟨hsame, hreturns⟩ := kept.sound.returns_superseded timely hmem hlt hturn
    exact iff_of_false (fun h => h.1 hsame) (Submission.not_ended_of_ne hreturns hother a)

/-- What a submission was superseded in, it goes on to show when it has stepped. -/
theorem Kept.supersededIn_after (kept : s.Kept rules) (timely : s.Timely) {turn : Turn}
    {answer : Answer} (hsub : s.submissions[index]? = some sub)
    (hturn : sub.turn? rules s.renewals s.attempt answer = some turn) (kind : Suspension) :
    sub.SupersededIn s.renewals kind ↔ (sub.after turn).SupersededIn s.renewals kind := by
  have hmem := List.mem_of_getElem? hsub
  rcases kept.sound.take_cases kept.led timely hsub hturn with ⟨hbegun, next⟩ | ⟨hlt, hother, _⟩
  · have undisturbed := (kept.led sub hmem hbegun).1
    rw [← hbegun]
    exact iff_of_false (undisturbed.not_supersededIn kind) (next.not_supersededIn kind)
  · obtain ⟨_, hreturns⟩ := kept.sound.returns_superseded timely hmem hlt hturn
    obtain ⟨task, houtcome⟩ := Submission.inFlight_of_turn? hturn
    have hnotOwn : s.attempt.generation ≠ (sub.after turn).generation := hother
    rw [Submission.supersededIn_waits houtcome, Submission.supersededIn_returns hreturns,
      Submission.lastSuspension?_after houtcome hturn, and_iff_right hlt, and_iff_right hnotOwn,
      Option.some_inj]

theorem Kept.accounted_take (kept : s.Kept rules) (timely : s.Timely)
    (hrun : (start rules).run? rules acts = some s) {turn : Turn} {answer : Answer}
    (hstep : s.step? rules (.resume index answer) = some (s.take index sub turn))
    (hsub : s.submissions[index]? = some sub)
    (hturn : sub.turn? rules s.renewals s.attempt answer = some turn)
    (accounted : sub.Accounted rules acts s.renewals index) :
    (sub.after turn).Accounted rules (acts ++ [.resume index answer]) s.renewals index where
  answers := by
    have hanswer : Act.answerFor? index (.resume index answer) = some answer := if_pos rfl
    rw [Submission.answers_after hturn, ← accounted.answers, List.filterMap_append,
      List.filterMap_cons_some hanswer]
    rfl
  moves a hover := by
    obtain ⟨task, houtcome⟩ := Submission.inFlight_of_turn? hturn
    rw [moves_concat hrun hstep, accounted.moves a hover,
      or_iff_right (Submission.not_ended_waits houtcome a)]
    exact (and_iff_right rfl).trans (kept.moved_iff timely hsub hturn hover)
  supersedes kind := by
    rw [supersedes_concat hrun hstep, accounted.supersedes, or_iff_left (fun h => nomatch h.1)]
    exact kept.supersededIn_after timely hsub hturn kind

/-- A submission that begins moves the attempt, and nothing has come for it. -/
theorem Sound.accounted_submit (sound : s.Sound) (hrun : (start rules).run? rules acts = some s)
    {file : ScanFile} (hstep : s.step? rules (.submit file) = some s')
    (idle : Idle rules acts s.submissions.length) :
    (Submission.begin file s'.renewals (rules.submit file s.attempt)).Accounted rules
      (acts ++ [.submit file]) s'.renewals s.submissions.length where
  answers := by
    rw [List.filterMap_append, idle.answers]
    rfl
  moves a hover := by
    have hmoved : s'.attempt ≠ s.attempt := by
      intro heq
      have hgeneration := congrArg Attempt.generation heq
      rw [(sound.step hstep).generation, sound.generation, renewals_step? hstep] at hgeneration
      exact generation_ne (Nat.lt_succ_self _) (Nat.add_lt_add_left (by decide) _) hgeneration
    cases hstep
    rw [moves_concat hrun rfl, or_iff_right (idle.moves a), and_iff_right hmoved]
    exact (and_iff_right rfl).trans
      ((Undisturbed.begins file sound.generation_succ).ended_iff hover)
  supersedes kind := by
    rw [supersedes_concat hrun hstep]
    cases hstep
    refine iff_of_false (not_or_intro (idle.supersedes kind) ?_)
      ((Undisturbed.begins file sound.generation_succ).not_supersededIn kind)
    rintro ⟨_, other, _, hother, _⟩
    rw [List.getElem?_eq_none (Nat.le_refl _)] at hother
    cases hother

end OwnStep

section Run

variable {rules : Rules} {acts : List Act} {act : Act} {s s' : Session}

theorem Accounts.step (accounts : s.Accounts rules acts) (kept : s.Kept rules)
    (timely : s.Timely) (hrun : (start rules).run? rules acts = some s)
    (hstep : s.step? rules act = some s') : s'.Accounts rules (acts ++ [act]) where
  present index sub hsub := by
    by_cases hown : act.IsStepOf s index
    · cases act with
      | submit file =>
        obtain rfl : index = s.submissions.length := hown
        have idle := accounts.absent _ (List.getElem?_eq_none (Nat.le_refl _))
        cases (submissions_submit hstep).symm.trans hsub
        exact kept.sound.accounted_submit hrun hstep idle
      | resume i answer =>
        obtain rfl : i = index := hown
        obtain ⟨before, turn, hbefore, hturn, rfl⟩ := step?_resume hstep
        rw [getElem?_take s i i before turn hbefore, if_pos rfl] at hsub
        cases hsub
        exact kept.accounted_take timely hrun hstep hbefore hturn
          (accounts.present i before hbefore)
      | validate file => cases hown
      | reset => cases hown
    · rw [getElem?_of_not hstep hown] at hsub
      exact accounted_of_not hrun hstep hsub hown (accounts.present index sub hsub)
  absent index hnone := by
    have hnot : ¬act.IsStepOf s index := by
      intro hown
      cases act with
      | submit file =>
        obtain rfl : index = s.submissions.length := hown
        cases (submissions_submit hstep).symm.trans hnone
      | resume i answer =>
        obtain rfl : i = index := hown
        obtain ⟨before, turn, hbefore, _, rfl⟩ := step?_resume hstep
        rw [getElem?_take s i i before turn hbefore, if_pos rfl] at hnone
        cases hnone
      | validate file => cases hown
      | reset => cases hown
    rw [getElem?_of_not hstep hnot] at hnone
    exact idle_of_not hrun hstep hnone hnot (accounts.absent index hnone)

theorem accounts_of_run? (hrun : (start rules).run? rules acts = some s)
    (few : acts.countP Act.renews < UInt64.size) : s.Accounts rules acts := by
  -- what happens is read off the acts from the first, so the last is split off
  induction acts using List.reverseRecOn generalizing s with
  | nil =>
    cases hrun
    exact accounts_start rules
  | append_singleton acts act ih =>
    obtain ⟨before, hbefore, hlast⟩ := run?_split hrun
    obtain ⟨after, hstep, hafter⟩ := run?_cons.mp hlast
    cases hafter
    have fewBefore : acts.countP Act.renews < UInt64.size := by
      rw [List.countP_append] at few
      exact Nat.lt_of_le_of_lt (Nat.le_add_right _ _) few
    have hrenewals : before.renewals = acts.countP Act.renews := by
      rw [renewals_run? hbefore, start, Nat.zero_add]
    exact (ih hbefore fewBefore).step (kept_of_run? hbefore fewBefore)
      (timely_of_lt (hrenewals ▸ fewBefore)) hbefore hstep

end Run

end Session

end ScanClient
