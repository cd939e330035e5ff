/-!
# Network faults

Why a request brought no usable answer. A fault tells itself in one line, and its reasons in further
lines, each the reason of the one before.
-/

namespace ScanClient.Http

/-- Why a text is not an address. -/
inductive UrlFault where
  | relativeWithoutBase
  | emptyHost
  | invalidPort
  | invalidIpv4
  | invalidIpv6
  | invalidDomainCharacter
  | invalidDomain
  deriving DecidableEq, Repr

def UrlFault.message : UrlFault → String
  | .relativeWithoutBase => "relative URL without a base"
  | .emptyHost => "empty host"
  | .invalidPort => "invalid port number"
  | .invalidIpv4 => "invalid IPv4 address"
  | .invalidIpv6 => "invalid IPv6 address"
  | .invalidDomainCharacter => "invalid domain character"
  | .invalidDomain => "invalid international domain name"

inductive NetworkFault where
  | badUrl (fault : UrlFault)
  /-- The scheme of the address is not one of the web. -/
  | badScheme (url : String)
  /-- No request can name the address. -/
  | badUri (url : String)
  | refused (url : String)
  /-- The connection was closed before an answer. -/
  | closed (url : String)
  | timedOut (url : String)
  /-- An answer does not begin with its version. -/
  | badVersion (url : String)
  /-- An answer has a header that cannot be read. -/
  | badHeader (url : String)
  /-- A status code does not have three digits. -/
  | badStatus (url : String)
  /-- The body ended before its announced length. -/
  | cutBody
  deriving DecidableEq, Repr

namespace NetworkFault

def message : NetworkFault → String
  | .badUrl _ => "builder error"
  | .badScheme url | .badUri url => "builder error for url (" ++ url ++ ")"
  | .refused url | .closed url | .timedOut url | .badVersion url | .badHeader url
  | .badStatus url =>
    "error sending request for url (" ++ url ++ ")"
  | .cutBody => "error decoding response body"

/-- The reasons behind the fault, the nearest first. -/
def reasons : NetworkFault → List String
  | .badUrl fault => [fault.message]
  | .badScheme _ => ["URL scheme is not allowed"]
  | .badUri _ => ["Parsed Url is not a valid Uri"]
  | .refused _ =>
    ["client error (Connect)", "tcp connect error", "Connection refused (os error 111)"]
  | .closed _ => ["client error (SendRequest)", "connection closed before message completed"]
  | .timedOut _ => ["operation timed out"]
  | .badVersion _ => ["client error (SendRequest)", "invalid HTTP version parsed"]
  | .badHeader _ => ["client error (SendRequest)", "invalid HTTP header parsed"]
  | .badStatus _ => ["client error (SendRequest)", "invalid HTTP status-code parsed"]
  | .cutBody =>
    ["request or response body error", "error reading a body from connection",
      "end of file before message length reached"]

end NetworkFault

end ScanClient.Http
