import ScanClient.Response
import ScanClient.Files.Selection

/-!
# Scan attempts

The state of the scan that is going on, as everybody who watches it sees it.
-/

namespace ScanClient

open Json

structure FileInfo where
  name : String
  size : Nat
  deriving DecidableEq, Repr

def ScanFile.info (file : ScanFile) : FileInfo := ⟨file.name, file.size⟩

inductive Phase where
  | idle
  | validating
  | uploading
  | polling
  | completed
  | failed
  deriving DecidableEq, Repr, Inhabited

namespace Phase

def name : Phase → String
  | .idle => "idle"
  | .validating => "validating"
  | .uploading => "uploading"
  | .polling => "polling"
  | .completed => "completed"
  | .failed => "failed"

/-- Only a reset or another file leads out of these phases. -/
def isTerminal : Phase → Bool
  | .completed | .failed => true
  | _ => false

/-- A request is going on or about to. -/
def isBusy : Phase → Bool
  | .validating | .uploading | .polling => true
  | _ => false

end Phase

structure Attempt where
  /-- Counts the beginnings and resets, so that late answers can be told from current ones. -/
  generation : UInt64
  file : Option FileInfo
  phase : Phase
  scanId : Option String
  /-- The polls made so far. -/
  attemptCount : Nat
  maxAttempts : Nat
  error : Option Failure
  result : Option ScanResult
  deriving DecidableEq, Repr

namespace Attempt

/-- An attempt nothing has happened to. -/
def fresh (generation : UInt64) (maxAttempts : Nat) : Attempt where
  generation := generation
  file := none
  phase := .idle
  scanId := none
  attemptCount := 0
  maxAttempts := maxAttempts
  error := none
  result := none

def complete (a : Attempt) (result : ScanResult) : Attempt :=
  { a with phase := .completed, result := some result, error := none }

def fail (a : Attempt) (failure : Failure) : Attempt :=
  { a with phase := .failed, error := some failure, result := none }

def pollText (number max : Nat) : String :=
  "Scanning file... (attempt " ++ toString number ++ "/" ++ toString max ++ ")"

/-- One line on what is going on. -/
def progressText (a : Attempt) : String :=
  match a.phase with
  | .idle => "Select a .jar, .class, or .zip file to scan"
  | .validating => "Validating file..."
  | .uploading =>
    match a.file with
    | some file => "Uploading " ++ file.name ++ "..."
    | none => "Uploading file..."
  | .polling => pollText a.attemptCount a.maxAttempts
  | .completed => "Scan complete"
  | .failed =>
    match a.error with
    | some failure => "Scan failed: " ++ failure.message
    | none => "Scan failed"

def fileValue (file : FileInfo) : Value :=
  .object [("name", .string file.name), ("size", .ofNat file.size)]

def failureValue (failure : Failure) : Value :=
  .object [("kind", .string failure.kind.name), ("message", .string failure.message)]

/-- The attempt as a record, without its generation. -/
def toValue (a : Attempt) : Value :=
  .object
    [("file", .ofOption fileValue a.file),
     ("phase", .string a.phase.name),
     ("scan_id", .ofOption .string a.scanId),
     ("attempt_count", .ofNat a.attemptCount),
     ("max_attempts", .ofNat a.maxAttempts),
     ("error", .ofOption failureValue a.error),
     ("result", .ofOption ScanResult.toValue a.result)]

end Attempt

end ScanClient
