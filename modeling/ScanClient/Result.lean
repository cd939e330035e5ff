import ScanClient.Calendar.Reader
import ScanClient.Calendar.Written
import ScanClient.Risk
import ScanClient.Status

/-!
# Scan results

A finished scan, how it is written as a record, and how such a record is read.
-/

namespace ScanClient

open Json Calendar

structure ScanResult where
  id : String
  /-- The name of the scanned file, as the service knows it. -/
  filename : String
  isMalicious : Bool
  /-- The probability that the file is malicious, between 0 and 1. -/
  probability : Double
  scanDate : Instant
  status : ScanStatus
  deriving DecidableEq, Repr

namespace ScanResult

def percent (r : ScanResult) : String := percentText r.probability

def risk (r : ScanResult) : RiskLevel := .ofProbability r.probability

def toValue (r : ScanResult) : Value :=
  .object
    [("id", .string r.id),
     ("filename", .string r.filename),
     ("is_malicious", .boolean r.isMalicious),
     ("malicious_probability", .ofDouble r.probability),
     ("scan_date", .string r.scanDate.written),
     ("status", .string r.status.name)]

/-- The fields of a result as far as they have been read. -/
structure Draft where
  id : Option String := none
  filename : Option String := none
  isMalicious : Option Bool := none
  probability : Option Double := none
  scanDate : Option Instant := none
  status : Option ScanStatus := none

/-- A date in the free form. -/
def readDate : Reader Instant :=
  finish (fun text => (readFree text.toList).mapError fun fault => .unreadable fault.message)
    (readString "an RFC 3339 formatted date and time string")

def fields : List (RecordField Draft) :=
  [.of "id" (readString "a string") Draft.id fun d a => { d with id := some a },
   .of "filename" (readString "a string") Draft.filename fun d a => { d with filename := some a },
   .of "is_malicious" readBoolean Draft.isMalicious fun d a => { d with isMalicious := some a },
   .of "malicious_probability" readDouble Draft.probability fun d a =>
    { d with probability := some a },
   .of "scan_date" readDate Draft.scanDate fun d a => { d with scanDate := some a },
   .of "status" ScanStatus.read Draft.status fun d a => { d with status := some a }]

/-- The result of a draft, or what `missing` says of the first field it lacks. -/
def Draft.complete (d : Draft) (missing : String → Cause) : Except Cause ScanResult := do
  let need {α : Type} (name : String) : Option α → Except Cause α
    | some a => .ok a
    | none => .error (missing name)
  let id ← need "id" d.id
  let filename ← need "filename" d.filename
  let isMalicious ← need "is_malicious" d.isMalicious
  let probability ← need "malicious_probability" d.probability
  let scanDate ← need "scan_date" d.scanDate
  let status ← need "status" d.status
  pure { id, filename, isMalicious, probability, scanDate, status }

def shape : Shape Draft ScanResult where
  expected := "struct ScanResult"
  fields := fields
  empty := {}
  ofMembers := fun d => d.complete .missingField
  ofElements := fun count d =>
    d.complete fun _ => .wrongLength count "struct ScanResult with 6 elements"

/-- The result a JSON text holds. -/
def parse (text : String) : Except ReadError ScanResult := readAll (readRecord shape) text

end ScanResult

end ScanClient
