import Mathlib.Data.List.Nodup
import ScanClient.Proofs.Progress

/-!
# Observations of a submission

Whoever follows a submission looks at some of the values it publishes, in the order in which they
come, at each as often as they like. However it is looked at, no line is told twice, and the lines
stand in the order of what they tell: the validation, the upload, and the polls, of which none is
left out up to the last that has been seen.
-/

namespace ScanClient

open Cli

/-- What may be seen of a value that changes: some of the values it has, in their order, each once or
several times. -/
inductive Observed {α : Type} : List α → List α → Prop where
  | ends (shown : List α) : Observed shown []
  | misses (a : α) {later seen : List α} (h : Observed later seen) : Observed (a :: later) seen
  /-- After a look there may be another at the same value. -/
  | looks {a : α} {later seen : List α} (h : Observed (a :: later) seen) :
      Observed (a :: later) (a :: seen)

namespace Observed

variable {α : Type} {shown seen : List α}

theorem subset (h : Observed shown seen) : seen ⊆ shown := by
  induction h with
  | ends shown => exact List.nil_subset _
  | misses a h ih => exact List.subset_cons_of_subset a ih
  | looks h ih => exact List.cons_subset.mpr ⟨List.mem_cons_self, ih⟩

/-- An order of the values is one of what is seen of them. -/
theorem pairwise {R : α → α → Prop} (hrefl : ∀ a, R a a) (h : Observed shown seen)
    (hshown : shown.Pairwise R) : seen.Pairwise R := by
  induction h with
  | ends shown => exact .nil
  | misses a h ih => exact ih hshown.of_cons
  | @looks a later seen h ih =>
    refine .cons (fun b hb => ?_) (ih hshown)
    rcases List.mem_cons.mp (h.subset hb) with rfl | hb
    · exact hrefl b
    · exact List.rel_of_pairwise_cons hshown hb

end Observed

/-! ## The lines -/

namespace Cli.Progress

/-- The numbers of polls can be told apart. -/
theorem pollText_injective (max : Nat) :
    Function.Injective fun number => Attempt.pollText number max := by
  intro m n h
  have hslash := (String.append_left_inj _).mp ((String.append_left_inj _).mp h)
  have hnumber := (String.append_left_inj _).mp hslash
  have htext : toString m = toString n := (String.append_right_inj _).mp hnumber
  have hdigits : Nat.toDigits 10 m = Nat.toDigits 10 n := by
    simpa only [Nat.toString_eq_repr, Nat.toList_repr] using congrArg String.toList htext
  calc
    m = Nat.ofDigitChars 10 (Nat.toDigits 10 m) 0 := Nat.ofDigitChars_ten_toDigits.symm
    _ = Nat.ofDigitChars 10 (Nat.toDigits 10 n) 0 := by rw [hdigits]
    _ = n := Nat.ofDigitChars_ten_toDigits

/-- A text begins with the letter that its first part begins with. -/
theorem head?_append_of {first rest : String} {c : Char} (h : first.toList.head? = some c) :
    (first ++ rest).toList.head? = some c := by
  rw [String.toList_append, List.head?_append, h]
  rfl

theorem head?_validationLine : validationLine.toList.head? = some 'V' := by decide +kernel

theorem head?_uploadLine (file : FileInfo) : (uploadLine file).toList.head? = some 'U' :=
  head?_append_of (head?_append_of (by decide +kernel))

theorem head?_pollText (number max : Nat) :
    (Attempt.pollText number max).toList.head? = some 'S' :=
  head?_append_of (head?_append_of (head?_append_of (head?_append_of (by decide +kernel))))

/-- No line is told twice of an attempt that has come so far. -/
theorem nodup_told (file : FileInfo) (uploaded : Bool) (polls maxAttempts : Nat) :
    (validationLine :: ((if uploaded then [uploadLine file] else []) ++
      (List.range' 1 polls).map fun n => Attempt.pollText n maxAttempts)).Nodup := by
  have hpolls : ((List.range' 1 polls).map fun n => Attempt.pollText n maxAttempts).Nodup :=
    (List.nodup_range' 1).map (pollText_injective maxAttempts)
  have hupload : (if uploaded then [uploadLine file] else []).Nodup := by
    cases uploaded with
    | true => exact List.nodup_singleton _
    | false => exact .nil
  -- lines of different kinds begin with different letters
  have hheads : ∀ line ∈ (if uploaded then [uploadLine file] else []),
      line.toList.head? = some 'U' := by
    intro line hline
    cases uploaded with
    | true => rw [List.mem_singleton.mp hline, head?_uploadLine]
    | false => cases hline
  have hpollHeads : ∀ line ∈ (List.range' 1 polls).map fun n => Attempt.pollText n maxAttempts,
      line.toList.head? = some 'S' := by
    intro line hline
    obtain ⟨n, _, rfl⟩ := List.mem_map.mp hline
    exact head?_pollText n maxAttempts
  refine List.nodup_cons.mpr ⟨fun hmem => ?_, List.nodup_append.mpr ⟨hupload, hpolls, ?_⟩⟩
  · have hhead := (List.mem_append.mp hmem).imp (hheads _) (hpollHeads _)
    rw [head?_validationLine] at hhead
    revert hhead
    decide
  · rintro line hline other hother rfl
    have hhead := (hheads line hline).symm.trans (hpollHeads line hother)
    revert hhead
    decide

/-- A second look at the same value tells nothing. -/
theorem advance_again (p : Progress) (a : Attempt) : ((p.advance a).2.advance a).1 = [] := by
  cases hfile : a.file with
  | none => simp only [Progress.advance, hfile]
  | some file =>
    by_cases hphase : a.phase = .idle
    · simp only [Progress.advance, hfile, if_pos hphase]
    · have hpolls : a.attemptCount - max p.polls a.attemptCount = 0 := by omega
      simp only [Progress.advance, hfile, if_neg hphase, pollLines, hpolls]
      cases p.uploaded <;> cases hasUploaded a <;> rfl

end Cli.Progress

/-! ## The values of a submission -/

/-- Each value that a step publishes counts as many polls as those before it, or more. -/
theorem Standing.pairwise_attemptCount {rules : Rules} {file : ScanFile} {generation : UInt64}
    {task : Task} {left : Attempt} (standing : Standing rules file generation task left)
    {given : task.stage.Answer} {move : Move}
    (h : Advance rules task left task.stage given move) :
    (left :: publications move.effects).Pairwise fun a b => a.attemptCount ≤ b.attemptCount := by
  obtain ⟨taskGeneration, filename, stage⟩ := task
  obtain ⟨_, _, _, rfl, _⟩ := standing
  cases h with
  | fails h => exact List.pairwise_pair.mpr (Nat.le_refl _)
  | uploads selected contents => exact List.pairwise_pair.mpr (Nat.le_refl _)
  | accepted contents h =>
    -- the scan that was accepted counts no poll, and is shown before its first
    refine .cons (fun b hb => ?_) (List.pairwise_pair.mpr (Nat.zero_le 1))
    exact Nat.zero_le _
  | pauses scanId h room => exact List.pairwise_singleton _ _
  | polls scanId room => exact List.pairwise_pair.mpr (Nat.le_succ _)
  | completes number status h => exact List.pairwise_pair.mpr (Nat.le_refl _)

theorem Opening.pairwise_attemptCount {rules : Rules} {file : ScanFile} {generation : UInt64}
    {move : Move} (h : Opening rules file generation move) :
    (publications move.effects).Pairwise fun a b => a.attemptCount ≤ b.attemptCount := by
  cases h with
  | rejected h => exact List.pairwise_pair.mpr (Nat.le_refl _)
  | inMemory checked h advance =>
    exact (rules.standing_begun generation checked).pairwise_attemptCount advance
  | onDisk checked h => exact List.pairwise_singleton _ _

theorem Undisturbed.pairwise_attemptCount {rules : Rules} {sub : Submission}
    (h : Undisturbed rules sub) :
    sub.shown.Pairwise fun a b => a.attemptCount ≤ b.attemptCount := by
  induction h with
  | begins file h =>
    rw [Submission.shown_begin]
    exact (rules.opening_submit file _).pairwise_attemptCount
  | @goesOn sub answer turn h hturn ih =>
    obtain ⟨task, given, move, _, standing, _, advance, rfl⟩ := h.advance hturn
    obtain ⟨hfirst, hmore⟩ := List.pairwise_cons.mp (standing.pairwise_attemptCount advance)
    rw [Submission.shown_after]
    -- what was shown before led to what was left, and that to what is shown now
    refine List.pairwise_append.mpr ⟨ih, hmore, fun a ha b hb => ?_⟩
    exact Nat.le_trans (h.shows.1 a ha).attemptCount (hfirst b hb)

/-- The lines told of what is seen of a submission. -/
theorem Undisturbed.lines_observed {rules : Rules} {sub : Submission} (h : Undisturbed rules sub)
    {seen : List Attempt} (observed : Observed sub.shown seen) {last : Attempt}
    (hlast : seen.getLast? = some last) :
    Progress.start.lines seen =
      Progress.validationLine ::
        ((if seen.any Progress.hasUploaded then [Progress.uploadLine sub.file.info] else []) ++
          (List.range' 1 last.attemptCount).map fun n =>
            Attempt.pollText n rules.policy.maxAttempts) := by
  obtain ⟨before, rfl⟩ := List.getLast?_eq_some_iff.mp hlast
  have hle := observed.pairwise (fun a => Nat.le_refl a.attemptCount) h.pairwise_attemptCount
  refine Progress.lines_start (fun a ha => (h.shows.1 a (observed.subset ha)).tells)
    (List.mem_append_right _ List.mem_cons_self) fun a ha => ?_
  rcases List.mem_append.mp ha with ha | ha
  · exact (List.pairwise_append.mp hle).2.2 a ha last List.mem_cons_self
  · rw [List.mem_singleton.mp ha]

/-! ## The main result -/

/-- In a session that has come to `s₀` a file is submitted, and the attempt is not renewed. What the
session publishes from there on, up to any moment, is what the submission shows. However this is
looked at, no line is told twice. The line on the validation is the first; the lines on the polls
come after one on the upload, and are those on the first poll, the second, and so on up to the
number that the value counts which was seen last. To look once more at what has just been seen tells
nothing. -/
theorem progress_in_order (rules : Rules) {acts : List Act} {s₀ s₁ s : Session}
    (hrun : (Session.start rules).run? rules acts = some s₀) {file : ScanFile}
    (hsubmit : s₀.step? rules (.submit file) = some s₁) (timely : s₁.Timely) {since : List Act}
    (hsince : ∀ act ∈ since, act.renews = false) (hs : s₁.run? rules since = some s) :
    (∃ sub shown, s.submissions[s₀.submissions.length]? = some sub ∧ sub.file = file ∧
      s.published = s₀.published ++ shown ∧
      ∀ seen, Observed shown seen →
        (Progress.start.lines seen).Nodup ∧
        ∀ last, seen.getLast? = some last →
          ∃ uploaded : Bool, (0 < last.attemptCount → uploaded = true) ∧
            (uploaded = true ↔ ∃ a ∈ seen, a.phase = .uploading ∨ a.scanId.isSome) ∧
            Progress.start.lines seen =
              "Validating file..." ::
                ((if uploaded then ["Uploading " ++ file.name ++ "..."] else []) ++
                  (List.range' 1 last.attemptCount).map fun n =>
                    "Scanning file... (attempt " ++ toString n ++ "/" ++
                      toString rules.policy.maxAttempts ++ ")")) ∧
    ∀ (told : Progress) (a : Attempt), ((told.advance a).2.advance a).1 = [] := by
  obtain ⟨sub, hsub, hfile, undisturbed, hpublished⟩ :=
    Session.published_since hrun hsubmit timely hsince hs
  refine ⟨⟨sub, sub.shown, hsub, hfile, hpublished, fun seen observed => ⟨?_, ?_⟩⟩,
    Progress.advance_again⟩
  · cases hlast : seen.getLast? with
    | none =>
      rw [List.getLast?_eq_none_iff.mp hlast]
      exact .nil
    | some last =>
      rw [undisturbed.lines_observed observed hlast]
      exact Progress.nodup_told _ _ _ _
  · intro last hlast
    have hseen : last ∈ seen := List.mem_of_getLast? hlast
    have htells := (undisturbed.shows.1 last (observed.subset hseen)).tells
    have hany : seen.any Progress.hasUploaded = true ↔
        ∃ a ∈ seen, a.phase = .uploading ∨ a.scanId.isSome := by
      simp only [List.any_eq_true, Progress.hasUploaded, Bool.or_eq_true, beq_iff_eq]
    refine ⟨seen.any Progress.hasUploaded, fun hpos => ?_, hany, ?_⟩
    · exact hany.mpr ⟨last, hseen, .inr (htells.scanId_of_count hpos)⟩
    · rw [undisturbed.lines_observed observed hlast, hfile]
      rfl

/-- Of a scan that is polled for the second time all lines are told, if it is first looked at during
the first poll. -/
theorem secondPoll_told :
    ∃ s seen, (Session.start .standard).run? .standard
        [.submit sampleFile, .resume 0 (.upload (.ok ⟨some "7"⟩)), .resume 0 (.poll (.ok {})),
          .resume 0 .elapsed] = some s ∧
      Observed s.published.tail seen ∧ seen.map (·.attemptCount) = [1, 1, 2] ∧
      Progress.start.lines seen =
        ["Validating file...", "Uploading a.jar...", "Scanning file... (attempt 1/30)",
          "Scanning file... (attempt 2/30)"] := by
  have hrun : (Session.start .standard).run? .standard [] = some _ := rfl
  have hsubmit : (Session.start .standard).step? .standard (.submit sampleFile) = some _ := rfl
  have timely : (Session.submit .standard sampleFile (Session.start .standard)).Timely :=
    Session.timely_of_lt (by decide)
  have hs : (Session.submit .standard sampleFile (Session.start .standard)).run? .standard
      [.resume 0 (.upload (.ok ⟨some "7"⟩)), .resume 0 (.poll (.ok {})), .resume 0 .elapsed] =
        some _ := rfl
  obtain ⟨⟨sub, shown, _, _, hpublished, hlines⟩, _⟩ :=
    progress_in_order .standard hrun hsubmit timely (by decide) hs
  let polled (number : Nat) : Attempt :=
    (Stage.polling "7" number).leaves (Rules.standard.begun sampleFile 1)
  have hshown : shown = [Rules.standard.begun sampleFile 1,
      (Stage.uploading (.bytes [])).leaves (Rules.standard.begun sampleFile 1), polled 0, polled 1,
      polled 2] := (congrArg List.tail hpublished).symm
  -- the second look shows what the first has shown
  have observed : Observed shown [polled 1, polled 1, polled 2] := by
    rw [hshown]
    exact .misses _ (.misses _ (.misses _ (.looks (.looks (.misses _ (.looks (.ends _)))))))
  obtain ⟨_, hends⟩ := hlines _ observed
  obtain ⟨uploaded, hupload, _, htold⟩ := hends (polled 2) rfl
  rw [hupload (by decide)] at htold
  refine ⟨_, [polled 1, polled 1, polled 2], rfl, ?_, rfl, htold⟩
  rw [hshown] at observed
  exact observed

end ScanClient
