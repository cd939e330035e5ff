import ScanClient.Attempt

/-!
# Progress

What a scan has come to, told line by line. Whoever tells it sees the attempt only now and then, so
a line tells every step the attempt has taken since it was last seen.
-/

namespace ScanClient.Cli

/-- What has been told so far. -/
structure Progress where
  validated : Bool
  uploaded : Bool
  /-- The polls that have been told. -/
  polls : Nat
  deriving DecidableEq, Repr

namespace Progress

/-- Nothing has been told. -/
def start : Progress := ⟨false, false, 0⟩

/-- Whether an attempt has come as far as its upload. -/
def hasUploaded (a : Attempt) : Bool := a.phase == .uploading || a.scanId.isSome

def validationLine : String := "Validating file..."

def uploadLine (file : FileInfo) : String := "Uploading " ++ file.name ++ "..."

/-- The lines on the polls after the first `told` ones. -/
def pollLines (a : Attempt) (told : Nat) : List String :=
  (List.range' (told + 1) (a.attemptCount - told)).map fun n => Attempt.pollText n a.maxAttempts

/-- The lines on what has happened to an attempt since it was last seen. An attempt without a file,
or one that does nothing, has nothing to tell. -/
def advance (p : Progress) (a : Attempt) : List String × Progress :=
  match a.file with
  | none => ([], p)
  | some file =>
    if a.phase = .idle then ([], p)
    else
      let uploaded := hasUploaded a
      ((if p.validated then [] else [validationLine]) ++
          (if uploaded ∧ !p.uploaded then [uploadLine file] else []) ++ pollLines a p.polls,
        ⟨true, p.uploaded || uploaded, max p.polls a.attemptCount⟩)

/-- The lines on an attempt that is seen several times. -/
def lines : Progress → List Attempt → List String
  | _, [] => []
  | p, a :: later =>
    let (told, p) := p.advance a
    told ++ p.lines later

end Progress

end ScanClient.Cli
