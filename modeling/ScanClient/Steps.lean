import ScanClient.Submission

/-!
# Submissions end

Each step leaves fewer steps to make. A read leads to an upload, an upload to the first poll, and a
poll to a wait or to the next poll, of which there are no more than the policy allows.
-/

namespace ScanClient

/-- A bound on the steps a submission still makes after a step. -/
def Move.stepsLeft (rules : Rules) (move : Move) : Nat :=
  match move.outcome with
  | .waits task => task.stepsLeft rules + 1
  | .returns _ => 0

theorem Move.stepsLeft_after (rules : Rules) (move : Move) (effects : List Effect) :
    (move.after effects).stepsLeft rules = move.stepsLeft rules := rfl

namespace Task

theorem stepsLeft_poll_le (rules : Rules) (task : Task) (scanId : String) (number : Nat)
    (a : Attempt) :
    (task.poll rules scanId number a).stepsLeft rules ≤
      2 * (rules.policy.budget - number) + 2 := by
  unfold poll
  split
  · exact Nat.le_refl _
  · exact Nat.zero_le _

theorem stepsLeft_pollAgain_le (rules : Rules) (task : Task) (scanId : String) (number : Nat)
    (a : Attempt) :
    (task.pollAgain rules scanId number a).stepsLeft rules ≤
      2 * (rules.policy.budget - number) := by
  unfold pollAgain
  split
  · have := stepsLeft_poll_le rules task scanId (number + 1) a
    omega
  · exact Nat.zero_le _

theorem stepsLeft_afterRead_le (rules : Rules) (task : Task)
    (answer : Except ScanError Blob) (a : Attempt) :
    (task.afterRead answer a).stepsLeft rules ≤ 2 * rules.policy.budget + 2 := by
  unfold afterRead
  split
  · exact Nat.zero_le _
  · split
    · exact Nat.le_refl _
    · exact Nat.zero_le _

theorem stepsLeft_afterUpload_le (rules : Rules) (task : Task)
    (answer : Except ScanError Receipt) (a : Attempt) :
    (task.afterUpload rules answer a).stepsLeft rules ≤ 2 * rules.policy.budget := by
  unfold afterUpload
  split
  · exact Nat.zero_le _
  · split
    · exact Nat.zero_le _
    · split
      · exact Nat.zero_le _
      · rename_i scanId _
        have hpoll := stepsLeft_poll_le rules task scanId 1
          { a with scanId := some scanId, phase := .polling }
        have : 1 ≤ rules.policy.budget := Nat.le_max_left _ _
        rw [Move.stepsLeft_after]
        omega

theorem stepsLeft_afterPoll_le (rules : Rules) (task : Task) (scanId : String) (number : Nat)
    (answer : Except ScanError Response) (a : Attempt) :
    (task.afterPoll rules scanId number answer a).stepsLeft rules ≤
      2 * (rules.policy.budget - number) + 1 := by
  unfold afterPoll
  split
  · exact Nat.zero_le _
  · split
    · exact Nat.zero_le _
    · split
      · split <;> exact Nat.zero_le _
      · exact Nat.zero_le _
      all_goals
        split
        · exact Nat.le_refl _
        · exact Nat.le_succ_of_le (stepsLeft_pollAgain_le rules task scanId number a)

/-- A step leaves fewer steps. -/
theorem stepsLeft_resume_le (rules : Rules) :
    (task : Task) → (answer : task.stage.Answer) → (a : Attempt) →
      (task.resume rules answer a).stepsLeft rules ≤ task.stepsLeft rules
  | ⟨_, _, .reading _⟩, answer, a => stepsLeft_afterRead_le rules _ answer a
  | ⟨_, _, .uploading _⟩, answer, a =>
    Nat.le_succ_of_le (stepsLeft_afterUpload_le rules _ answer a)
  | ⟨_, _, .polling scanId number⟩, answer, a =>
    stepsLeft_afterPoll_le rules _ scanId number answer a
  | ⟨_, _, .waiting scanId number⟩, _, a => stepsLeft_pollAgain_le rules _ scanId number a

end Task

end ScanClient
