import ScanClient.ScanError

/-!
# Log events

Everything the client has to tell while it works. An event says what happened; its entry is what a
log shows of it.
-/

namespace ScanClient.Log

/-- How much an event matters, the most important first. -/
inductive Level where
  | error
  | warn
  | info
  | debug
  | trace
  deriving DecidableEq, Repr

namespace Level

def name : Level → String
  | .error => "ERROR"
  | .warn => "WARN"
  | .info => "INFO"
  | .debug => "DEBUG"
  | .trace => "TRACE"

def rank : Level → Nat
  | .error => 1
  | .warn => 2
  | .info => 3
  | .debug => 4
  | .trace => 5

end Level

/-- The part of the client an event comes from. -/
inductive Source where
  | settings
  | submissions
  | service
  | commandLine
  deriving DecidableEq, Repr

/-- The name that log filters know a source by. -/
def Source.target : Source → String
  | .settings => "cyberguard_client"
  | .submissions => "cyberguard_client::controller"
  | .service => "cyberguard_client::client"
  | .commandLine => "cyberguard"

inductive Datum where
  /-- A text that a log line puts between quotes. -/
  | text (s : String)
  /-- A text that a log line holds as it is. -/
  | plain (s : String)
  | count (n : Nat)
  | boolean (b : Bool)
  | double (x : Double)

structure Entry where
  level : Level
  source : Source
  message : String
  fields : List (String × Datum)

/-- The names that a filter knows fields by. The message is a field too. -/
def Entry.fieldNames (entry : Entry) : List String := "message" :: entry.fields.map (·.1)

inductive Event where
  | settingIgnored (key value : String)
  | attemptStarted (generation : UInt64) (file : String) (size : Nat)
  | attemptReset (generation : UInt64)
  | supersededBeforeUpload (generation : UInt64) (file : String)
  | uploadDiscarded (generation : UInt64) (file : String)
  | uploadAccepted (generation : UInt64) (scanId : String)
  | polling (scanId : String) (attempt maxAttempts : Nat)
  | pollDiscarded (generation : UInt64) (scanId : String)
  | scanCompleted (scanId : String) (malicious : Bool) (probability : Double)
  | attemptFailed (generation : UInt64) (failure : Failure)
  | uploadRequested (url filename : String) (bytes : Nat)
  | statusRequested (url : String)
  | serviceChosen (baseUrl : String)
  deriving DecidableEq, Repr

def Event.entry : Event → Entry
  | .settingIgnored key value =>
    ⟨.warn, .settings, "ignoring unparseable setting, using default",
      [("key", .text key), ("value", .plain value)]⟩
  | .attemptStarted generation file size =>
    ⟨.debug, .submissions, "starting upload attempt",
      [("generation", .count generation.toNat), ("file", .text file), ("size", .count size)]⟩
  | .attemptReset generation =>
    ⟨.debug, .submissions, "resetting upload attempt", [("generation", .count generation.toNat)]⟩
  | .supersededBeforeUpload generation file =>
    ⟨.debug, .submissions, "attempt superseded before upload",
      [("generation", .count generation.toNat), ("file", .plain file)]⟩
  | .uploadDiscarded generation file =>
    ⟨.warn, .submissions, "discarding upload response for a superseded attempt",
      [("generation", .count generation.toNat), ("file", .plain file)]⟩
  | .uploadAccepted generation scanId =>
    ⟨.debug, .submissions, "upload accepted",
      [("generation", .count generation.toNat), ("scan_id", .plain scanId)]⟩
  | .polling scanId attempt maxAttempts =>
    ⟨.debug, .submissions, "polling scan status",
      [("scan_id", .text scanId), ("attempt", .count attempt),
       ("max_attempts", .count maxAttempts)]⟩
  | .pollDiscarded generation scanId =>
    ⟨.warn, .submissions, "discarding poll response for a superseded attempt",
      [("generation", .count generation.toNat), ("scan_id", .text scanId)]⟩
  | .scanCompleted scanId malicious probability =>
    ⟨.info, .submissions, "scan completed",
      [("scan_id", .text scanId), ("malicious", .boolean malicious),
       ("probability", .double probability)]⟩
  | .attemptFailed generation failure =>
    ⟨.info, .submissions, "upload attempt failed",
      [("generation", .count generation.toNat), ("kind", .plain failure.kind.title),
       ("error", .plain failure.message)]⟩
  | .uploadRequested url filename bytes =>
    ⟨.debug, .service, "uploading file",
      [("url", .plain url), ("filename", .text filename), ("bytes", .count bytes)]⟩
  | .statusRequested url => ⟨.debug, .service, "checking scan status", [("url", .plain url)]⟩
  | .serviceChosen baseUrl =>
    ⟨.debug, .commandLine, "using scan service", [("base_url", .text baseUrl)]⟩

end ScanClient.Log
