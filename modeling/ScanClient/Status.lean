import ScanClient.Json.Record

/-!
# Scan status

What the service says about a scan. Any name it may invent later is unknown, which counts as
pending.
-/

namespace ScanClient

inductive ScanStatus where
  | pending
  | completed
  | failed
  | unknown
  deriving DecidableEq, Repr, Inhabited

namespace ScanStatus

open Json

def name : ScanStatus → String
  | .pending => "pending"
  | .completed => "completed"
  | .failed => "failed"
  | .unknown => "unknown"

def ofName (name : String) : ScanStatus :=
  if name = "pending" then .pending
  else if name = "completed" then .completed
  else if name = "failed" then .failed
  else .unknown

/-- The status a JSON value stands for; nothing but a known string stands for a known one. -/
def ofValue : Value → ScanStatus
  | .string s => ofName s
  | _ => .unknown

/-- Reads any value as a status. -/
def readAny (room : Nat) : Reader ScanStatus := (readValue room).map ofValue

/-- What follows the name in the object form: a null, and the bracket. -/
def readBehindName (name : String) : Reader ScanStatus := fun s =>
  match afterColon readNull s with
  | .error e => .error e
  | .ok r =>
    match h : skipBlank r.rest with
    | [] => .error (.behind .endInObject [])
    | c :: rest =>
      if c = '\x7d' then
        .ok ⟨ofName name, rest, r.length_lt_of_skipBlank h⟩
      else .error (.behind .noValue (c :: rest))

/-- Reads the name in the object form. -/
def readName : Reader String :=
  afterBlank .endInObject fun c rest =>
    if c = '"' then behindChar readText c rest
    else .error (.ahead (if c = '\x7d' then .noValue else .keyNotString) (c :: rest))

/-- Reads a name, or an object whose one member has the name as its key and null as its value. -/
def read : Reader ScanStatus :=
  afterBlank .endInValue fun c rest =>
    if c = '"' then behindChar (readText.map ofName) c rest
    else if c = '\x7b' then
      match readName rest with
      | .error e => .error e
      | .ok name =>
        (readBehindName name.value name.rest).map fun r => (name.follow r).behind c
    else .error (.ahead .noValue (c :: rest))

end ScanStatus

end ScanClient
