import ScanClient.Cli.Progress
import ScanClient.Proofs.Return
import ScanClient.Proofs.Scan

/-!
# Progress of submissions

Which lines are told of a submission, whichever of the values it publishes are looked at. What has
been told is how far the attempt was seen to have come, and the lines told at a look are those from
there to how far it has come now. So all that counts is how far the attempt was seen to have come in
the end. The last value shows that, with one exception: where an upload was not accepted, nothing of
it is left in the last value, and its line is told only if the attempt is seen while the upload goes
on.
-/

namespace ScanClient

open Cli

namespace Cli.Progress

/-! ## How far an attempt is seen to have come -/

/-- How far an attempt has come that has a file and does something. -/
def reached (a : Attempt) : Progress := ⟨true, hasUploaded a, a.attemptCount⟩

/-- What is told when both have been told. -/
def join (p q : Progress) : Progress :=
  ⟨p.validated || q.validated, p.uploaded || q.uploaded, max p.polls q.polls⟩

def joinAll (p : Progress) (seen : List Attempt) : Progress :=
  seen.foldl (fun p a => p.join (reached a)) p

/-- The lines that are told from one time to another of an attempt for a file, of which this many
polls may be made. -/
def linesBetween (file : FileInfo) (maxAttempts : Nat) (p q : Progress) : List String :=
  (if q.validated ∧ !p.validated then [validationLine] else []) ++
    (if q.uploaded ∧ !p.uploaded then [uploadLine file] else []) ++
    (List.range' (p.polls + 1) (q.polls - p.polls)).map fun n => Attempt.pollText n maxAttempts

/-- Nothing is told before what comes before it. -/
structure InOrder (p : Progress) : Prop where
  uploaded_of_polls : 0 < p.polls → p.uploaded = true
  validated_of_uploaded : p.uploaded = true → p.validated = true

/-- An attempt for a file of which progress is told. -/
structure Tells (file : FileInfo) (maxAttempts : Nat) (a : Attempt) : Prop where
  file_eq : a.file = some file
  phase_ne : a.phase ≠ .idle
  maxAttempts_eq : a.maxAttempts = maxAttempts
  scanId_of_count : 0 < a.attemptCount → a.scanId.isSome

/-- All that has been told before has been told after. -/
structure Before (p q : Progress) : Prop where
  validated : p.validated = true → q.validated = true
  uploaded : p.uploaded = true → q.uploaded = true
  polls : p.polls ≤ q.polls

theorem inOrder_start : start.InOrder := ⟨fun h => absurd h (Nat.lt_irrefl 0), nofun⟩

theorem before_join (p q : Progress) : p.Before (p.join q) where
  validated h := Bool.or_eq_true_iff.mpr (.inl h)
  uploaded h := Bool.or_eq_true_iff.mpr (.inl h)
  polls := Nat.le_max_left _ _

theorem Before.trans {p q r : Progress} (hpq : p.Before q) (hqr : q.Before r) : p.Before r where
  validated h := hqr.validated (hpq.validated h)
  uploaded h := hqr.uploaded (hpq.uploaded h)
  polls := Nat.le_trans hpq.polls hqr.polls

theorem InOrder.join {p q : Progress} (hp : p.InOrder) (hq : q.InOrder) : (p.join q).InOrder where
  uploaded_of_polls h := by
    have hpos : 0 < p.polls ∨ 0 < q.polls := by
      simp only [Progress.join] at h
      omega
    exact Bool.or_eq_true_iff.mpr (hpos.imp hp.uploaded_of_polls hq.uploaded_of_polls)
  validated_of_uploaded h :=
    Bool.or_eq_true_iff.mpr
      ((Bool.or_eq_true_iff.mp h).imp hp.validated_of_uploaded hq.validated_of_uploaded)

section Looks

variable {file : FileInfo} {maxAttempts : Nat}

theorem Tells.inOrder {a : Attempt} (tells : Tells file maxAttempts a) : (reached a).InOrder where
  uploaded_of_polls h := Bool.or_eq_true_iff.mpr (.inr (tells.scanId_of_count h))
  validated_of_uploaded _ := rfl

/-- A look tells the lines between what has been told and how far the attempt has come. -/
theorem Tells.advance {a : Attempt} (tells : Tells file maxAttempts a) (p : Progress) :
    p.advance a =
      (linesBetween file maxAttempts p (p.join (reached a)), p.join (reached a)) := by
  have hpolls : max p.polls a.attemptCount - p.polls = a.attemptCount - p.polls := by omega
  simp only [Progress.advance, tells.file_eq, if_neg tells.phase_ne, linesBetween, Progress.join,
    reached, pollLines, tells.maxAttempts_eq, hpolls, Bool.or_true]
  cases p.validated <;> cases p.uploaded <;> cases hasUploaded a <;> rfl

theorem linesBetween_self (p : Progress) : linesBetween file maxAttempts p p = [] := by
  unfold linesBetween
  rw [Nat.sub_self]
  cases p.validated <;> cases p.uploaded <;> rfl

/-- The numbers behind one up to another, over a number between them. -/
theorem range'_between {k m n : Nat} (hkm : k ≤ m) (hmn : m ≤ n) :
    List.range' (k + 1) (m - k) ++ List.range' (m + 1) (n - m) = List.range' (k + 1) (n - k) := by
  have happend := @List.range'_append_1 (k + 1) (m - k) (n - m)
  rw [show k + 1 + (m - k) = m + 1 by omega, show m - k + (n - m) = n - k by omega] at happend
  exact happend

/-- A line is told once on the way from one time over another to a third. -/
theorem once_append {before between after : Bool} (h : before = true → between = true)
    (h' : between = true → after = true) (line : List String) :
    (if between ∧ !before then line else []) ++ (if after ∧ !between then line else []) =
      if after ∧ !before then line else [] := by
  cases before with
  | true =>
    rw [h' (h rfl), h rfl]
    rfl
  | false =>
    cases between with
    | true =>
      rw [h' rfl]
      exact List.append_nil _
    | false => rfl

/-- What is told at one look and at the next is what the later look alone would tell. -/
theorem linesBetween_append {p q r : Progress} (hpq : p.Before q) (hqr : q.Before r)
    (hq : q.InOrder) :
    linesBetween file maxAttempts p q ++ linesBetween file maxAttempts q r =
      linesBetween file maxAttempts p r := by
  cases huploaded : q.uploaded with
  | true =>
    -- only polls are left for the next look
    have hvalidated := hq.validated_of_uploaded huploaded
    have hru := hqr.uploaded huploaded
    have hrv := hqr.validated hvalidated
    simp only [linesBetween, huploaded, hvalidated, hru, hrv]
    rw [← range'_between hpq.polls hqr.polls, List.map_append]
    simp
  | false =>
    -- the upload has not been told of, so no poll has
    have hqp : q.polls = 0 := by
      rcases Nat.eq_zero_or_pos q.polls with h | h
      · exact h
      · have := hq.uploaded_of_polls h
        rw [huploaded] at this
        cases this
    have hpp : p.polls = 0 := Nat.le_zero.mp (hqp ▸ hpq.polls)
    have hpu : p.uploaded = false := by
      cases h : p.uploaded with
      | false => rfl
      | true => exact (hpq.uploaded h).symm.trans huploaded
    simp only [linesBetween, hpu, huploaded, hpp, hqp]
    rw [← once_append hpq.validated hqr.validated]
    simp

/-- Looks tell together what one look would tell that shows all they have shown. -/
theorem lines_eq {seen : List Attempt} (hseen : ∀ a ∈ seen, Tells file maxAttempts a)
    {p : Progress} (hp : p.InOrder) :
    p.lines seen = linesBetween file maxAttempts p (p.joinAll seen) ∧
      p.Before (p.joinAll seen) := by
  induction seen generalizing p with
  | nil => exact ⟨(linesBetween_self p).symm, id, id, Nat.le_refl _⟩
  | cons a later ih =>
    have tells := hseen a List.mem_cons_self
    obtain ⟨hlines, hbefore⟩ :=
      ih (fun b hb => hseen b (List.mem_cons_of_mem _ hb)) (hp.join tells.inOrder)
    have hjoin := before_join p (reached a)
    simp only [lines, tells.advance]
    rw [hlines]
    exact ⟨linesBetween_append hjoin hbefore (hp.join tells.inOrder), hjoin.trans hbefore⟩

end Looks

theorem Before.antisymm {p q : Progress} (hpq : p.Before q) (hqp : q.Before p) : p = q := by
  have hvalidated := Bool.eq_iff_iff.mpr ⟨hpq.validated, hqp.validated⟩
  have huploaded := Bool.eq_iff_iff.mpr ⟨hpq.uploaded, hqp.uploaded⟩
  have hpolls := Nat.le_antisymm hpq.polls hqp.polls
  cases p
  cases q
  simp only at hvalidated huploaded hpolls
  rw [hvalidated, huploaded, hpolls]

theorem before_joinAll (p : Progress) (seen : List Attempt) : p.Before (p.joinAll seen) := by
  induction seen generalizing p with
  | nil => exact ⟨id, id, Nat.le_refl _⟩
  | cons a later ih => exact (before_join p (reached a)).trans (ih _)

theorem reached_before_joinAll (p : Progress) {seen : List Attempt} {a : Attempt} (ha : a ∈ seen) :
    (reached a).Before (p.joinAll seen) := by
  induction seen generalizing p with
  | nil => cases ha
  | cons b later ih =>
    rcases List.mem_cons.mp ha with rfl | ha
    · refine Before.trans ?_ (before_joinAll _ later)
      exact ⟨fun h => Bool.or_eq_true_iff.mpr (.inr h), fun h => Bool.or_eq_true_iff.mpr (.inr h),
        Nat.le_max_right _ _⟩
    · exact ih _ ha

/-- What has been seen goes no further than all that has been seen. -/
theorem joinAll_before {p q : Progress} {seen : List Attempt} (hp : p.Before q)
    (hseen : ∀ a ∈ seen, (reached a).Before q) : (p.joinAll seen).Before q := by
  induction seen generalizing p with
  | nil => exact hp
  | cons a later ih =>
    have ha := hseen a List.mem_cons_self
    refine ih ⟨?_, ?_, Nat.max_le.mpr ⟨hp.polls, ha.polls⟩⟩
      fun b hb => hseen b (List.mem_cons_of_mem _ hb)
    · exact fun h => (Bool.or_eq_true_iff.mp h).elim hp.validated ha.validated
    · exact fun h => (Bool.or_eq_true_iff.mp h).elim hp.uploaded ha.uploaded

/-- The lines on an attempt from the beginning, by how far it was seen to have come. -/
theorem lines_start {file : FileInfo} {maxAttempts : Nat} {seen : List Attempt} {final : Attempt}
    (hseen : ∀ a ∈ seen, Tells file maxAttempts a) (hfinal : final ∈ seen)
    (hle : ∀ a ∈ seen, a.attemptCount ≤ final.attemptCount) :
    start.lines seen =
      validationLine :: (if seen.any hasUploaded then [uploadLine file] else []) ++
        (List.range' 1 final.attemptCount).map fun n => Attempt.pollText n maxAttempts := by
  have hreached : start.joinAll seen = ⟨true, seen.any hasUploaded, final.attemptCount⟩ := by
    -- no look goes further than this, and some looks go so far
    apply Before.antisymm
    · refine joinAll_before ⟨nofun, nofun, Nat.zero_le _⟩ fun a ha => ⟨fun _ => rfl, fun h => ?_,
        hle a ha⟩
      exact List.any_eq_true.mpr ⟨a, ha, h⟩
    · have hlast := reached_before_joinAll start hfinal
      refine ⟨fun _ => hlast.validated rfl, fun h => ?_, hlast.polls⟩
      obtain ⟨a, ha, huploaded⟩ := List.any_eq_true.mp h
      exact (reached_before_joinAll start ha).uploaded huploaded
  rw [(lines_eq hseen inOrder_start).1, hreached]
  simp [linesBetween, start]

end Cli.Progress

/-! ## What a submission shows -/

namespace Submission

/-- The values of the attempt that a submission publishes. -/
def shown (sub : Submission) : List Attempt :=
  sub.turns.flatMap fun turn => publications turn.move.effects

/-- Whether a submission has begun an upload. -/
def uploads (sub : Submission) : Bool := sub.requests.any fun request => !request.isPoll

/-- The lines that ought to be told of a submission: one on the validation, one on the upload if there
is one, and one on each poll. -/
def story (rules : Rules) (sub : Submission) : List String :=
  "Validating file..." ::
    ((if sub.uploads then ["Uploading " ++ sub.file.name ++ "..."] else []) ++
      (List.range' 1 sub.pollCount).map fun n =>
        "Scanning file... (attempt " ++ toString n ++ "/" ++
          toString rules.policy.maxAttempts ++ ")")

theorem shown_after (sub : Submission) (turn : Turn) :
    (sub.after turn).shown = sub.shown ++ publications turn.move.effects := by
  simp only [shown, after, List.flatMap_append, List.flatMap_singleton]

theorem shown_begin (file : ScanFile) (begun : Nat) (move : Move) :
    (begin file begun move).shown = publications move.effects := by
  simp only [shown, begin, List.flatMap_singleton]

end Submission

section Steps

variable {rules : Rules} {file : ScanFile} {generation : UInt64}

/-- A value of the attempt from which the lines on a file can be told, and which another value does
not fall behind. -/
structure Shows (rules : Rules) (file : ScanFile) (last a : Attempt) : Prop where
  tells : Progress.Tells file.info rules.policy.maxAttempts a
  scanId : a.scanId.isSome → last.scanId.isSome
  attemptCount : a.attemptCount ≤ last.attemptCount

theorem Shows.trans {a b c : Attempt} (hab : Shows rules file b a) (hbc : Shows rules file c b) :
    Shows rules file c a :=
  ⟨hab.tells, fun h => hbc.scanId (hab.scanId h), Nat.le_trans hab.attemptCount hbc.attemptCount⟩

theorem tells_leaves (stage : Stage) :
    Progress.Tells file.info rules.policy.maxAttempts
      (stage.leaves (rules.begun file generation)) := by
  cases stage with
  | reading selected => exact ⟨rfl, nofun, rfl, fun h => absurd h (Nat.lt_irrefl 0)⟩
  | uploading contents => exact ⟨rfl, nofun, rfl, fun h => absurd h (Nat.lt_irrefl 0)⟩
  | polling scanId number => exact ⟨rfl, nofun, rfl, fun _ => rfl⟩
  | waiting scanId number => exact ⟨rfl, nofun, rfl, fun _ => rfl⟩

/-- A step goes on from what was left, and each value it publishes is on the way to what it
leaves. -/
theorem Standing.shows {task : Task} {left : Attempt}
    (standing : Standing rules file generation task left) {given : task.stage.Answer} {move : Move}
    (h : Advance rules task left task.stage given move) :
    Shows rules file move.attempt left ∧
      ∀ a ∈ publications move.effects, Shows rules file move.attempt a := by
  obtain ⟨taskGeneration, filename, stage⟩ := task
  obtain ⟨_, _, _, hleft, _⟩ := standing
  have tells : Progress.Tells file.info rules.policy.maxAttempts left := hleft ▸ tells_leaves stage
  have hscanId := tells.scanId_of_count
  cases h with
  | fails h =>
    refine ⟨⟨tells, id, Nat.le_refl _⟩, fun a ha => ?_⟩
    rw [List.mem_singleton.mp ha]
    exact ⟨⟨tells.file_eq, nofun, tells.maxAttempts_eq, hscanId⟩, id, Nat.le_refl _⟩
  | uploads selected contents =>
    refine ⟨⟨tells, id, Nat.le_refl _⟩, fun a ha => ?_⟩
    rw [List.mem_singleton.mp ha]
    exact ⟨⟨tells.file_eq, nofun, tells.maxAttempts_eq, hscanId⟩, id, Nat.le_refl _⟩
  | @accepted contents receipt scanId h =>
    -- no poll has been counted before the first
    have hcount : left.attemptCount ≤ 1 := by
      rw [hleft]
      exact Nat.zero_le 1
    refine ⟨⟨tells, fun _ => rfl, hcount⟩, fun a ha => ?_⟩
    rcases List.mem_cons.mp ha with rfl | ha
    · exact ⟨⟨tells.file_eq, nofun, tells.maxAttempts_eq, fun _ => rfl⟩, fun _ => rfl, hcount⟩
    · rw [List.mem_singleton.mp ha]
      exact ⟨⟨tells.file_eq, nofun, tells.maxAttempts_eq, fun _ => rfl⟩, id, Nat.le_refl _⟩
  | pauses scanId h room =>
    exact ⟨⟨tells, id, Nat.le_refl _⟩, fun a ha => absurd ha List.not_mem_nil⟩
  | polls scanId room =>
    subst hleft
    refine ⟨⟨tells, id, Nat.le_succ _⟩, fun a ha => ?_⟩
    rw [List.mem_singleton.mp ha]
    exact ⟨⟨rfl, nofun, rfl, fun _ => rfl⟩, id, Nat.le_refl _⟩
  | completes number status h =>
    refine ⟨⟨tells, id, Nat.le_refl _⟩, fun a ha => ?_⟩
    rw [List.mem_singleton.mp ha]
    exact ⟨⟨tells.file_eq, nofun, tells.maxAttempts_eq, hscanId⟩, id, Nat.le_refl _⟩

theorem Opening.shows {move : Move} (h : Opening rules file generation move) :
    ∀ a ∈ publications move.effects, Shows rules file move.attempt a := by
  have tells : Progress.Tells file.info rules.policy.maxAttempts (rules.begun file generation) :=
    tells_leaves (.reading file)
  cases h with
  | rejected h =>
    intro a ha
    rcases List.mem_cons.mp ha with rfl | ha
    · exact ⟨tells, id, Nat.le_refl _⟩
    · rw [List.mem_singleton.mp ha]
      exact ⟨⟨rfl, nofun, rfl, tells.scanId_of_count⟩, id, Nat.le_refl _⟩
  | @inMemory contents move checked h advance =>
    obtain ⟨hbegun, hshown⟩ := (rules.standing_begun generation checked).shows advance
    intro a ha
    rcases List.mem_cons.mp ha with rfl | ha
    · exact hbegun
    · exact hshown a ha
  | onDisk checked h =>
    intro a ha
    rw [List.mem_singleton.mp ha]
    exact ⟨tells, id, Nat.le_refl _⟩

/-- A first step publishes something, and last what it leaves. -/
theorem Opening.getLast?_publications {move : Move} (h : Opening rules file generation move) :
    (publications move.effects).getLast? = some move.attempt := by
  have hlatest := h.latest (rules.begun file generation)
  cases h with
  | rejected h => rfl
  | onDisk checked h => rfl
  | @inMemory contents move checked h advance =>
    rw [show (move.after (rules.announcement file generation)).attempt = _ from hlatest.symm]
    simp only [Move.after, Rules.announcement, List.cons_append, List.nil_append,
      publications_publish, publications_log, List.getLast?_cons, Option.getD_some]

/-- Whether a step begins an upload. -/
def Move.uploads? (move : Move) : Bool := move.request?.any fun request => !request.isPoll

/-- An upload begins with the step that shows it. -/
theorem Standing.uploads?_eq {task : Task} {left : Attempt}
    (standing : Standing rules file generation task left) {given : task.stage.Answer} {move : Move}
    (h : Advance rules task left task.stage given move) :
    move.uploads? = (publications move.effects).any fun a => a.phase == .uploading := by
  obtain ⟨taskGeneration, filename, stage⟩ := task
  obtain ⟨_, _, _, rfl, _⟩ := standing
  cases h <;> rfl

theorem Opening.uploads?_eq {move : Move} (h : Opening rules file generation move) :
    move.uploads? = (publications move.effects).any fun a => a.phase == .uploading := by
  cases h with
  | rejected h => rfl
  | onDisk checked h => rfl
  | @inMemory contents move checked h advance =>
    show move.uploads? = (publications move.effects).any fun a => a.phase == .uploading
    exact (rules.standing_begun generation checked).uploads?_eq advance

/-- Only a step that begins an upload leads on from the read. -/
theorem Standing.uploads?_of_reading {task : Task} {left : Attempt} {selected : ScanFile}
    (standing : Standing rules file generation task left) (hstage : task.stage = .reading selected)
    {given : task.stage.Answer} {move : Move}
    (h : Advance rules task left task.stage given move) :
    move.uploads? = true ∨ move.attempt.scanId = none ∧ ∃ a, move.outcome = .returns a := by
  obtain ⟨taskGeneration, filename, stage⟩ := task
  obtain ⟨_, _, _, rfl, _⟩ := standing
  cases hstage
  cases h with
  | fails h => exact .inr ⟨rfl, _, rfl⟩
  | uploads selected contents => exact .inl rfl

theorem Opening.uploads?_of_goesOn {move : Move} (h : Opening rules file generation move) :
    move.uploads? = true ∨ move.attempt.scanId = none ∧
      ∀ task, move.outcome = .waits task → ∃ selected, task.stage = .reading selected := by
  cases h with
  | rejected h => exact .inr ⟨rfl, nofun⟩
  | onDisk checked h =>
    refine .inr ⟨rfl, fun task houtcome => ?_⟩
    cases houtcome
    exact ⟨file, rfl⟩
  | @inMemory contents move checked h advance =>
    refine ((rules.standing_begun generation checked).uploads?_of_reading rfl advance).imp_right ?_
    rintro ⟨hscanId, a, hreturns⟩
    refine ⟨hscanId, fun task houtcome => ?_⟩
    cases hreturns.symm.trans houtcome

end Steps

namespace Submission

theorem uploads_begin (file : ScanFile) (begun : Nat) (move : Move) :
    (begin file begun move).uploads = move.uploads? := by
  simp only [uploads, requests, dealings, begin, List.flatMap_singleton]
  rw [Turn.requests_dealings, Move.uploads?]
  cases move.request? <;> simp

theorem uploads_after (sub : Submission) (turn : Turn) :
    (sub.after turn).uploads = (sub.uploads || turn.move.uploads?) := by
  simp only [uploads, requests]
  rw [dealings_after, List.filterMap_append, Turn.requests_dealings, List.any_append, Move.uploads?]
  cases turn.move.request? <;> simp

end Submission

namespace Undisturbed

variable {rules : Rules} {sub : Submission}

/-- All values that a submission publishes are on the way to the one it leaves, which is the last. -/
theorem shows (h : Undisturbed rules sub) :
    (∀ a ∈ sub.shown, Shows rules sub.file sub.left a) ∧ sub.shown.getLast? = some sub.left := by
  induction h with
  | @begins file begun a h =>
    have opening := rules.opening_submit file a
    rw [Submission.shown_begin]
    exact ⟨opening.shows, opening.getLast?_publications⟩
  | @goesOn sub answer turn h hturn ih =>
    obtain ⟨task, given, move, _, standing, _, advance, rfl⟩ := h.advance hturn
    obtain ⟨hleft, hshown⟩ := standing.shows advance
    rw [Submission.shown_after]
    constructor
    · intro a ha
      rcases List.mem_append.mp ha with ha | ha
      · exact (ih.1 a ha).trans hleft
      · exact hshown a ha
    · have hlatest := advance.latest
      rw [List.getLast?_append, ih.2, show (sub.after _).left = move.attempt from rfl, ← hlatest]
      cases (publications move.effects).getLast? <;> rfl

theorem uploads_eq (h : Undisturbed rules sub) :
    sub.uploads = sub.shown.any fun a => a.phase == .uploading := by
  induction h with
  | begins file h =>
    rw [Submission.uploads_begin, Submission.shown_begin]
    exact (rules.opening_submit file _).uploads?_eq
  | goesOn h hturn ih =>
    obtain ⟨task, given, move, _, standing, _, advance, rfl⟩ := h.advance hturn
    rw [Submission.uploads_after, Submission.shown_after, List.any_append, ih]
    exact congrArg _ (standing.uploads?_eq advance)

/-- A submission that has come further than the read has begun an upload. -/
theorem uploads_of_goesOn (h : Undisturbed rules sub) :
    sub.uploads = true ∨ sub.left.scanId = none ∧
      ∀ task, sub.outcome = .waits task → ∃ selected, task.stage = .reading selected := by
  induction h with
  | begins file h =>
    rw [Submission.uploads_begin]
    exact (rules.opening_submit file _).uploads?_of_goesOn
  | @goesOn sub answer turn h hturn ih =>
    obtain ⟨task, given, move, houtcome, standing, _, advance, rfl⟩ := h.advance hturn
    rw [Submission.uploads_after]
    rcases ih with ih | ⟨_, ih⟩
    · exact .inl (Bool.or_eq_true_iff.mpr (.inl ih))
    · obtain ⟨selected, hstage⟩ := ih task houtcome
      refine (standing.uploads?_of_reading hstage advance).imp (fun h => ?_) ?_
      · exact Bool.or_eq_true_iff.mpr (.inr h)
      · rintro ⟨hscanId, a, hreturns⟩
        exact ⟨hscanId, fun task houtcome => nomatch hreturns.symm.trans houtcome⟩

end Undisturbed

namespace Session.Carries

variable {rules : Rules} {index : Nat} {sub : Submission} {s s' : Session}

/-- While a session goes on with a submission, it publishes what the submission shows, and nothing
else. -/
theorem published_step (carries : s.Carries rules index sub) {act : Act} (hact : act.renews = false)
    (h : s.step? rules act = some s') {sub' : Submission}
    (hsub' : s'.submissions[index]? = some sub') {before : List Attempt}
    (hpublished : s.published = before ++ sub.shown) : s'.published = before ++ sub'.shown := by
  rcases step?_cases h with ⟨hrenews, _⟩ | ⟨i, answer, resumed, turn, _, hresumed, hturn, rfl⟩
  · rw [hact] at hrenews
    cases hrenews
  rw [getElem?_take s i index resumed turn hresumed] at hsub'
  rcases carries.sound.take_cases carries.led carries.timely hresumed hturn with
    ⟨hcurrent, _⟩ | ⟨hlt, _, htake⟩
  · -- the submission that is not superseded is the last, which is this one
    have hlast := carries.sound.last hresumed hcurrent
    have hindex := carries.sound.last carries.submission carries.begun
    obtain rfl : i = index := by omega
    have hsame : resumed = sub := Option.some.inj (hresumed.symm.trans carries.submission)
    rw [if_pos rfl, hsame] at hsub'
    cases hsub'
    rw [Submission.shown_after, ← List.append_assoc, ← hpublished]
    rfl
  · -- a step of another submission, which has been superseded, shows nothing
    have hne : i ≠ index := by
      rintro rfl
      have hsame : resumed = sub := Option.some.inj (hresumed.symm.trans carries.submission)
      rw [hsame, carries.begun] at hlt
      exact absurd hlt (Nat.lt_irrefl _)
    rw [if_neg hne, carries.submission] at hsub'
    cases hsub'
    rw [htake]
    exact hpublished

theorem published_run {acts : List Act} (carries : s.Carries rules index sub)
    (hacts : ∀ act ∈ acts, act.renews = false) (h : s.run? rules acts = some s')
    {before : List Attempt} (hpublished : s.published = before ++ sub.shown) :
    ∃ sub', s'.Carries rules index sub' ∧ sub'.file = sub.file ∧
      s'.published = before ++ sub'.shown := by
  induction acts generalizing s sub with
  | nil =>
    cases h
    exact ⟨sub, carries, rfl, hpublished⟩
  | cons act acts ih =>
    obtain ⟨next, hnext, hrun⟩ := run?_cons.mp h
    obtain ⟨sub₁, hsub₁, _⟩ := getElem?_of_step? hnext carries.submission
    have hact := hacts act List.mem_cons_self
    obtain ⟨carries₁, hfile₁, _⟩ := carries.step hact hnext hsub₁
    obtain ⟨sub₂, carries₂, hfile₂, hpublished₂⟩ :=
      ih carries₁ (fun act hact => hacts act (List.mem_cons_of_mem _ hact)) hrun
        (carries.published_step hact hnext hsub₁ hpublished)
    exact ⟨sub₂, carries₂, hfile₂.trans hfile₁, hpublished₂⟩

end Session.Carries

/-! ## The lines on a submission -/

namespace Undisturbed

variable {rules : Rules} {sub : Submission}

/-- The lines told of a submission, if the last of its values has been looked at. -/
theorem lines_eq (h : Undisturbed rules sub) {seen : List Attempt} (hseen : seen ⊆ sub.shown)
    (hleft : sub.left ∈ seen) :
    Progress.start.lines seen =
      Progress.validationLine ::
        ((if seen.any Progress.hasUploaded then [Progress.uploadLine sub.file.info] else []) ++
          (List.range' 1 sub.pollCount).map fun n =>
            Attempt.pollText n rules.policy.maxAttempts) := by
  have hshows : ∀ a ∈ seen, Shows rules sub.file sub.left a := fun a ha => h.shows.1 a (hseen ha)
  rw [h.attemptCount.1]
  exact Progress.lines_start (fun a ha => (hshows a ha).tells) hleft
    fun a ha => (hshows a ha).attemptCount

/-- Of an upload there are the value that shows it going on and the scan in the last value. -/
theorem any_hasUploaded (h : Undisturbed rules sub) {seen : List Attempt}
    (hseen : seen ⊆ sub.shown) (hleft : sub.left ∈ seen) :
    seen.any Progress.hasUploaded = true ↔
      (∃ a ∈ seen, a.phase = .uploading) ∨ sub.left.scanId.isSome := by
  constructor
  · intro hany
    obtain ⟨a, ha, huploaded⟩ := List.any_eq_true.mp hany
    rcases Bool.or_eq_true_iff.mp huploaded with hphase | hscanId
    · exact .inl ⟨a, ha, beq_iff_eq.mp hphase⟩
    · exact .inr ((h.shows.1 a (hseen ha)).scanId hscanId)
  · rintro (⟨a, ha, hphase⟩ | hscanId)
    · exact List.any_eq_true.mpr ⟨a, ha, Bool.or_eq_true_iff.mpr (.inl (beq_iff_eq.mpr hphase))⟩
    · exact List.any_eq_true.mpr ⟨_, hleft, Bool.or_eq_true_iff.mpr (.inr hscanId)⟩

/-- A submission uploads if it shows so. -/
theorem uploads_iff (h : Undisturbed rules sub) :
    sub.uploads = true ↔ ∃ a ∈ sub.shown, a.phase = .uploading := by
  rw [h.uploads_eq, List.any_eq_true]
  exact exists_congr fun a => and_congr_right fun _ => beq_iff_eq

/-- There is no scan before an upload. -/
theorem uploads_of_scanId (h : Undisturbed rules sub) (hscanId : sub.left.scanId.isSome) :
    sub.uploads = true := by
  rcases h.uploads_of_goesOn with huploads | ⟨hnone, _⟩
  · exact huploads
  · rw [hnone] at hscanId
    cases hscanId

/-- All the lines are told if a look has shown the upload, unless there was none. -/
theorem lines_eq_story (h : Undisturbed rules sub) {seen : List Attempt} (hseen : seen ⊆ sub.shown)
    (hleft : sub.left ∈ seen)
    (htrace : sub.uploads = false ∨ sub.left.scanId.isSome ∨ ∃ a ∈ seen, a.phase = .uploading) :
    Progress.start.lines seen = sub.story rules := by
  have hiff := h.any_hasUploaded hseen hleft
  have huploads : seen.any Progress.hasUploaded = sub.uploads := by
    rw [Bool.eq_iff_iff, hiff]
    constructor
    · rintro (⟨a, ha, hphase⟩ | hscanId)
      · exact h.uploads_iff.mpr ⟨a, hseen ha, hphase⟩
      · exact h.uploads_of_scanId hscanId
    · intro huploads
      rw [huploads] at htrace
      rcases htrace with htrace | hscanId | htrace
      · cases htrace
      · exact .inr hscanId
      · exact .inl htrace
  rw [h.lines_eq hseen hleft, huploads]
  rfl

/-- The line on an upload is lost that no look has shown, if it came to no scan. There are no polls
then. -/
theorem lines_of_lost (h : Undisturbed rules sub) {seen : List Attempt} (hseen : seen ⊆ sub.shown)
    (hleft : sub.left ∈ seen) (hscanId : sub.left.scanId = none)
    (hmissed : ∀ a ∈ seen, a.phase ≠ .uploading) :
    Progress.start.lines seen = [Progress.validationLine] ∧ sub.pollCount = 0 := by
  have hcount : sub.left.attemptCount = 0 := by
    rcases Nat.eq_zero_or_pos sub.left.attemptCount with hzero | hpos
    · exact hzero
    · have := (h.shows.1 _ (hseen hleft)).tells.scanId_of_count hpos
      rw [hscanId] at this
      cases this
  have hpolls : sub.pollCount = 0 := h.attemptCount.1.trans hcount
  have hany : seen.any Progress.hasUploaded = false := by
    rw [Bool.eq_false_iff]
    intro hany
    rcases (h.any_hasUploaded hseen hleft).mp hany with ⟨a, ha, hphase⟩ | hsome
    · exact hmissed a ha hphase
    · rw [hscanId] at hsome
      cases hsome
  refine ⟨?_, hpolls⟩
  rw [h.lines_eq hseen hleft, hany, hpolls]
  rfl

end Undisturbed

/-- In a session that has come to `s₀` a file is submitted, and the attempt is not renewed. What the
session publishes from there on, up to any moment, is what the submission shows. -/
theorem Session.published_since {rules : Rules} {acts : List Act} {s₀ s₁ s : Session}
    (hrun : (Session.start rules).run? rules acts = some s₀) {file : ScanFile}
    (hsubmit : s₀.step? rules (.submit file) = some s₁) (timely : s₁.Timely) {since : List Act}
    (hsince : ∀ act ∈ since, act.renews = false) (hs : s₁.run? rules since = some s) :
    ∃ sub, s.submissions[s₀.submissions.length]? = some sub ∧ sub.file = file ∧
      Undisturbed rules sub ∧ s.published = s₀.published ++ sub.shown := by
  have sound := Session.sound_of_run? hrun
  have carries₁ := Session.carries_submit sound (Session.latest_of_run? hrun) hsubmit timely
  -- the values of the submission so far are those published since it began
  have hpublished₁ : s₁.published =
      s₀.published ++ (Submission.begin file s₁.renewals (rules.submit file s₀.attempt)).shown := by
    rw [Submission.shown_begin]
    cases hsubmit
    rfl
  obtain ⟨sub, carries, hfile, hpublished⟩ := carries₁.published_run hsince hs hpublished₁
  exact ⟨sub, carries.submission, hfile, carries.undisturbed.1, hpublished⟩

/-- A scan is one submission that nothing disturbs, and publishes what that shows. -/
theorem Scan.shown_of_run (service : Service σ) (tree : Files.Tree) (rules : Rules) (file : ScanFile)
    (st : σ) :
    let scan := run service tree rules file (.fresh 0 rules.policy.maxAttempts) st
    ∃ sub, Undisturbed rules sub ∧ sub.file = file ∧ sub.outcome = .returns scan.attempt ∧
      sub.shown = publications scan.effects := by
  intro scan
  obtain ⟨acts, s, sub, hrun, hcount, hsub, hreturns, hpublished⟩ :=
    session_of_run service tree rules file st
  obtain ⟨begun, hbegun, hrest⟩ := Session.run?_cons.mp hrun
  have hstart : (Session.start rules).run? rules [] = some (Session.start rules) := rfl
  have hacts : ∀ act ∈ acts, act.renews = false := fun act hact =>
    Bool.eq_false_iff.mpr (List.countP_eq_zero.mp hcount act hact)
  have timely : begun.Timely := by
    cases hbegun
    exact Session.timely_of_lt (show 1 < UInt64.size by decide)
  obtain ⟨same, hsame, hfile, undisturbed, hshown⟩ :=
    Session.published_since hstart hbegun timely hacts hrest
  cases hsub.symm.trans hsame
  -- before the submission a session shows one value, as the scan does
  exact ⟨sub, undisturbed, hfile, hreturns, (List.cons.inj (hshown.symm.trans hpublished)).2⟩

/-! ## The main result -/

/-- In a session that has come to `s₀` a file is submitted, and the attempt is not renewed. What the
session publishes from there on is what the submission shows. When the submission has returned, the
values that were looked at are some of these, in whatever order and however often, among them the
last. The lines told at these looks are then the same ones, on the validation, the upload and each
poll, with one exception: if an upload came to no scan, its line is told only by a look while it
went on. -/
theorem progress_of_submission (rules : Rules) {acts : List Act} {s₀ s₁ s : Session}
    (hrun : (Session.start rules).run? rules acts = some s₀) {file : ScanFile}
    (hsubmit : s₀.step? rules (.submit file) = some s₁) (timely : s₁.Timely) {since : List Act}
    (hsince : ∀ act ∈ since, act.renews = false) (hs : s₁.run? rules since = some s) :
    ∃ sub shown, s.submissions[s₀.submissions.length]? = some sub ∧ sub.file = file ∧
      s.published = s₀.published ++ shown ∧
      (sub.uploads = true ↔ ∃ a ∈ shown, a.phase = .uploading) ∧
      ∀ final, sub.outcome = .returns final →
        shown.getLast? = some final ∧
          ∀ seen ⊆ shown, final ∈ seen →
            (sub.uploads = false ∨ final.scanId.isSome ∨ (∃ a ∈ seen, a.phase = .uploading) →
              Progress.start.lines seen = sub.story rules) ∧
            (sub.uploads = true → final.scanId = none → (∀ a ∈ seen, a.phase ≠ .uploading) →
              Progress.start.lines seen = ["Validating file..."] ∧
                sub.story rules = ["Validating file...", "Uploading " ++ file.name ++ "..."]) := by
  obtain ⟨sub, hsub, hfile, undisturbed, hpublished⟩ :=
    Session.published_since hrun hsubmit timely hsince hs
  refine ⟨sub, sub.shown, hsub, hfile, hpublished, undisturbed.uploads_iff, ?_⟩
  intro final hreturns
  obtain rfl : final = sub.left := (undisturbed.concludes _ hreturns).1
  refine ⟨undisturbed.shows.2, fun seen hseen hfinal => ⟨?_, ?_⟩⟩
  · exact undisturbed.lines_eq_story hseen hfinal
  · intro huploads hscanId hmissed
    obtain ⟨hlines, hpolls⟩ := undisturbed.lines_of_lost hseen hfinal hscanId hmissed
    refine ⟨hlines, ?_⟩
    rw [Submission.story, huploads, hpolls, hfile]
    rfl

/-- The scan identifier in the value that a submission has returned. -/
def Submission.returnedScan? (sub : Submission) : Option String :=
  match sub.outcome with
  | .waits _ => none
  | .returns a => a.scanId

/-- Of a scan that completes all is told, also if only the value it ends with has been looked at. -/
theorem sampleScan_told :
    ∃ s sub final, (Session.start .standard).run? .standard Session.sampleScan = some s ∧
      s.submissions[0]? = some sub ∧ sub.outcome = .returns final ∧
      Progress.start.lines [final] = sub.story .standard ∧
      Progress.start.lines s.published.tail = sub.story .standard ∧
      sub.story .standard =
        ["Validating file...", "Uploading a.jar...", "Scanning file... (attempt 1/30)",
          "Scanning file... (attempt 2/30)"] := by
  have hrun : (Session.start .standard).run? .standard [] = some _ := rfl
  have hsubmit : (Session.start .standard).step? .standard (.submit sampleFile) = some _ := rfl
  have timely : (Session.submit .standard sampleFile (Session.start .standard)).Timely :=
    Session.timely_of_lt (by decide)
  have hsince : ∀ act ∈ Session.sampleScan.tail, act.renews = false := by decide
  -- what the run ends with is computed; that its lines are told follows from the theorem
  have hends : ((Session.start .standard).run? .standard Session.sampleScan).map
      (fun s => s.submissions[0]?.map fun sub => (sub.returnedScan?, sub.story .standard)) =
        some (some (some "7",
          ["Validating file...", "Uploading a.jar...", "Scanning file... (attempt 1/30)",
            "Scanning file... (attempt 2/30)"])) := by
    decide +kernel
  obtain ⟨s, hrunAll, hends⟩ := Option.map_eq_some_iff.mp hends
  obtain ⟨begun, hbegun, hs⟩ := Session.run?_cons.mp hrunAll
  cases hbegun
  obtain ⟨sub, shown, hsub, _, hpublished, _, hlines⟩ :=
    progress_of_submission .standard hrun hsubmit timely hsince hs
  obtain ⟨ended, hended, hends⟩ := Option.map_eq_some_iff.mp hends
  obtain rfl : sub = ended := Option.some.inj (hsub.symm.trans hended)
  obtain ⟨hscanId, hstory⟩ := Prod.mk.inj hends
  cases houtcome : sub.outcome with
  | waits task =>
    rw [Submission.returnedScan?, houtcome] at hscanId
    cases hscanId
  | returns final =>
    rw [Submission.returnedScan?, houtcome] at hscanId
    obtain ⟨hlatest, hlines⟩ := hlines final houtcome
    have hfinal : final ∈ shown := List.mem_of_getLast? hlatest
    have htrace : final.scanId.isSome := Option.isSome_of_eq_some hscanId
    refine ⟨s, sub, final, hrunAll, hsub, houtcome, ?_, ?_, hstory⟩
    · have honly : [final] ⊆ shown := List.cons_subset.mpr ⟨hfinal, List.nil_subset _⟩
      exact (hlines [final] honly (List.mem_singleton_self _)).1 (.inr (.inl htrace))
    · rw [hpublished]
      exact (hlines shown (List.Subset.refl _) hfinal).1 (.inr (.inl htrace))

/-- An upload that is answered with a blank for an identifier: its line is told when all values are
looked at, and not when only the last is. -/
theorem lost_upload_untold :
    ∃ s sub final,
      (Session.start .standard).run? .standard
        [.submit sampleFile, .resume 0 (.upload (.ok ⟨some " "⟩))] = some s ∧
      s.submissions = [sub] ∧ sub.outcome = .returns final ∧
      [final].Sublist s.published.tail ∧ s.published.tail.getLast? = some final ∧
      Progress.start.lines s.published.tail = ["Validating file...", "Uploading a.jar..."] ∧
      Progress.start.lines [final] = ["Validating file..."] := by
  refine ⟨_, _, _, rfl, rfl, rfl, ?_⟩
  decide +kernel

end ScanClient
