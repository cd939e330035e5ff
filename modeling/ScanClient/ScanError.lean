import ScanClient.Limits
import ScanClient.Http.Fault
import ScanClient.Json.Fault

/-!
# Errors

What can end a scan or a call of the service, how each reads, and the kind it is recorded under.
-/

namespace ScanClient

/-- Why a file could not be selected or read. -/
inductive FileFault where
  | notFound
  | inputOutput
  | permissionDenied
  | notADirectory
  | isADirectory
  | nameTooLong
  | tooManyLinks
  | invalidInput (message : String)
  | other (message : String)
  deriving DecidableEq, Repr

def FileFault.message : FileFault → String
  | .notFound => "No such file or directory (os error 2)"
  | .inputOutput => "Input/output error (os error 5)"
  | .permissionDenied => "Permission denied (os error 13)"
  | .notADirectory => "Not a directory (os error 20)"
  | .isADirectory => "Is a directory (os error 21)"
  | .nameTooLong => "File name too long (os error 36)"
  | .tooManyLinks => "Too many levels of symbolic links (os error 40)"
  | .invalidInput message => message
  | .other message => message

inductive ScanError where
  | config (message : String)
  | rejected (rejection : Rejection)
  /-- The service answered with a status that is no success. -/
  | transport (operation : String) (status : Nat) (statusText : String)
  | missingScanId
  | incompleteResult (reason : String)
  /-- The service reported that the scan failed. -/
  | serviceReported (message : String)
  | timeout (attempts : Nat)
  | network (fault : Http.NetworkFault)
  | body (fault : Json.ReadError)
  | file (fault : FileFault)

inductive ErrorKind where
  | config
  | validation
  | transport
  | protocol
  | serviceReported
  | timeout
  | network
  | io
  deriving DecidableEq, Repr

def ErrorKind.name : ErrorKind → String
  | .config => "config"
  | .validation => "validation"
  | .transport => "transport"
  | .protocol => "protocol"
  | .serviceReported => "service_reported"
  | .timeout => "timeout"
  | .network => "network"
  | .io => "io"

/-- The name of a kind in a log line. -/
def ErrorKind.title : ErrorKind → String
  | .config => "Config"
  | .validation => "Validation"
  | .transport => "Transport"
  | .protocol => "Protocol"
  | .serviceReported => "ServiceReported"
  | .timeout => "Timeout"
  | .network => "Network"
  | .io => "Io"

namespace ScanError

def kind : ScanError → ErrorKind
  | .config _ => .config
  | .rejected _ => .validation
  | .transport .. => .transport
  | .missingScanId | .incompleteResult _ | .body _ => .protocol
  | .serviceReported _ => .serviceReported
  | .timeout _ => .timeout
  | .network _ => .network
  | .file _ => .io

def message : ScanError → String
  | .config m => "cyberguard config error: " ++ m
  | .rejected r => r.message
  | .transport operation _ statusText => operation ++ " failed: " ++ statusText
  | .missingScanId => "no scan identifier returned"
  | .incompleteResult reason => "incomplete scan result: " ++ reason
  | .serviceReported m => m
  | .timeout attempts => "scan timed out after " ++ toString attempts ++ " status checks"
  | .network fault => "network error: " ++ fault.message
  | .body fault => "invalid response body: " ++ fault.message
  | .file fault => "cannot read file: " ++ fault.message

/-- What stands behind an error, the nearest first. -/
def reasons : ScanError → List String
  | .network fault => fault.message :: fault.reasons
  | .body fault => [fault.message]
  | .file fault => [fault.message]
  | _ => []

end ScanError

/-- An error as an attempt keeps it. -/
structure Failure where
  kind : ErrorKind
  message : String
  deriving DecidableEq, Repr

def ScanError.recorded (e : ScanError) : Failure := ⟨e.kind, e.message⟩

end ScanClient
