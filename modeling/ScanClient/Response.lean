import ScanClient.Result
import ScanClient.ScanError

/-!
# Status responses

The answer to the question how a scan is doing. Every field may be missing; what the answer is worth
is decided when a result is made of it.
-/

namespace ScanClient

open Json

structure Response where
  status : ScanStatus := .unknown
  id : Option String := none
  filename : Option String := none
  isMalicious : Option Bool := none
  probability : Option Double := none
  scanDate : Option String := none
  error : Option String := none
  deriving DecidableEq, Repr, Inhabited

namespace Response

/-- The fields of a response as far as they have been given, each perhaps as null. -/
structure Draft where
  status : Option ScanStatus := none
  id : Option (Option String) := none
  filename : Option (Option String) := none
  isMalicious : Option (Option Bool) := none
  probability : Option (Option Double) := none
  scanDate : Option (Option String) := none
  error : Option (Option String) := none

def readName : Reader (Option String) := readOptional (readString "a string")

/-- The status may be any value; the response itself takes one of the brackets that may nest. -/
def fields : List (RecordField Draft) :=
  [.of "status" (ScanStatus.readAny (maxDepth - 1)) Draft.status fun d a =>
    { d with status := some a },
   .of "id" readName Draft.id fun d a => { d with id := some a },
   .of "filename" readName Draft.filename fun d a => { d with filename := some a },
   .of "is_malicious" (readOptional readBoolean) Draft.isMalicious fun d a =>
    { d with isMalicious := some a },
   .of "malicious_probability" (readOptional readDouble) Draft.probability fun d a =>
    { d with probability := some a },
   .of "scan_date" readName Draft.scanDate fun d a => { d with scanDate := some a },
   .of "error" readName Draft.error fun d a => { d with error := some a }]

def Draft.complete (d : Draft) : Response where
  status := d.status.getD .unknown
  id := d.id.getD none
  filename := d.filename.getD none
  isMalicious := d.isMalicious.getD none
  probability := d.probability.getD none
  scanDate := d.scanDate.getD none
  error := d.error.getD none

def shape : Shape Draft Response where
  expected := "struct PollResponse"
  fields := fields
  empty := {}
  ofMembers := fun d => .ok d.complete
  ofElements := fun _ d => .ok d.complete

/-- The response a JSON text holds. -/
def parse (text : String) : Except ReadError Response := readAll (readRecord shape) text

/-- A value that must be there. -/
def need (name : String) : Option α → Except ScanError α
  | some a => .ok a
  | none => .error (.incompleteResult ("missing " ++ name))

/-- A probability lies between 0 and 1; what is not a number does not. -/
def checkProbability (p : Double) : Except ScanError Double :=
  if Double.zero.le p ∧ p.le .one then .ok p
  else
    .error (.incompleteResult
      ("malicious_probability " ++ p.render .message ++ " is outside [0, 1]"))

def checkDate (text : String) : Except ScanError Calendar.Instant :=
  match Calendar.readScanDate text with
  | some date => .ok date
  | none => .error (.incompleteResult ("unparseable scan_date \"" ++ text ++ "\""))

/-- The result a response holds. Where it has no identifier, the one that was asked for is taken. -/
def toResult (r : Response) (scanId : String) : Except ScanError ScanResult := do
  let filename ← need "filename" r.filename
  let isMalicious ← need "is_malicious" r.isMalicious
  let probability ← need "malicious_probability" r.probability >>= checkProbability
  let scanDate ← need "scan_date" r.scanDate >>= checkDate
  let id := (r.id.filter fun id => !id.isEmpty).getD scanId
  pure { id, filename, isMalicious, probability, scanDate, status := .completed }

/-- The reason a response gives for a failed scan. -/
def failureText (r : Response) : String :=
  (r.error.filter fun m => !Text.isBlankText m).getD "scan failed"

end Response

end ScanClient
