import ScanClient.Steps

/-!
# Scans

One submission with the attempt to itself, on a service that answers whenever it is asked.
-/

namespace ScanClient

open Log

/-- A service that answers from a state of its own. What it logs comes before its answer. -/
structure Service (σ : Type) where
  upload : String → Blob → σ → Except ScanError Receipt × List Event × σ
  poll : String → σ → Except ScanError Response × List Event × σ

/-- What came of a scan. -/
structure Scan (σ : Type) where
  effects : List Effect
  attempt : Attempt
  service : σ

namespace Scan

/-- The answer to what a submission waits for. -/
def answer (service : Service σ) (tree : Files.Tree) (rules : Rules) (s : σ) :
    (task : Task) → task.stage.Answer × List Event × σ
  | ⟨_, _, .reading file⟩ => (file.read tree rules.limits.maxFileSize, [], s)
  | ⟨_, filename, .uploading contents⟩ => service.upload filename contents s
  | ⟨_, _, .polling scanId _⟩ => service.poll scanId s
  | ⟨_, _, .waiting _ _⟩ => ((), [], s)

/-- Takes steps until the submission returns, with the effects so far. -/
def runFrom (service : Service σ) (tree : Files.Tree) (rules : Rules) (effects : List Effect)
    (move : Move) (s : σ) : Scan σ :=
  match _hmove : move.outcome with
  | .returns a => ⟨effects ++ move.effects, a, s⟩
  | .waits task =>
    let (got, events, next) := answer service tree rules s task
    runFrom service tree rules (effects ++ move.effects ++ events.map .log)
      (task.resume rules got move.attempt) next
termination_by move.stepsLeft rules
decreasing_by
  have hsteps := task.stepsLeft_resume_le rules got move.attempt
  have : move.stepsLeft rules = task.stepsLeft rules + 1 := by simp only [Move.stepsLeft, _hmove]
  omega

/-- Submits a file to an attempt nobody else changes. -/
def run (service : Service σ) (tree : Files.Tree) (rules : Rules) (file : ScanFile) (a : Attempt)
    (s : σ) : Scan σ :=
  runFrom service tree rules [] (rules.submit file a) s

end Scan

end ScanClient
