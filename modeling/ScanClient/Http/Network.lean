import ScanClient.Files.Blob
import ScanClient.Http.Fault
import ScanClient.Http.Reason
import ScanClient.Http.Url

/-!
# The network

What a client can reach: one server, which gives its replies in order, one to a request. All other
addresses refuse a connection.
-/

namespace ScanClient.Http

/-- The part of a form that carries a file. -/
structure Part where
  headers : List String
  contents : Blob
  deriving DecidableEq, Repr

structure Message where
  method : String
  target : String
  userAgent : String
  part : Option Part
  deriving DecidableEq, Repr

structure Reply where
  status : Nat
  body : List UInt8
  /-- The connection is closed instead of answering. -/
  closes : Bool
  /-- A longer body is announced than is sent. -/
  cut : Bool
  /-- The time until the reply, in milliseconds. -/
  delay : Nat

/-- What a server says that has no reply left. -/
def Reply.last : Reply := ⟨500, [], false, false, 0⟩

structure Answer where
  status : Nat
  body : List UInt8
  cut : Bool

/-- The text of a body that has arrived whole, with malformed stretches replaced. -/
def Answer.text (answer : Answer) : Except NetworkFault String :=
  if answer.cut then .error .cutBody else .ok (Text.Utf8.decodeLossy answer.body)

/-- Answers with these codes have no body, whatever follows them. -/
def hasBody (status : Nat) : Bool := status != 204 && status != 304

/-- Status codes have three digits. -/
def leastStatus : Nat := 100

def greatestStatus : Nat := 999

/-- Whether an answer with this code says no more than that another is to follow. -/
def isPassing (status : Nat) : Bool := 100 ≤ status && status < 200 && status != 101

/-- What every answer begins with, line breaks before it apart. -/
def answerMark : List UInt8 := Text.Utf8.encodeText "HTTP/1."

/-- What comes of bytes that stand where an answer begins, and are none. -/
def strayFault (url : String) : List UInt8 → NetworkFault
  | [] => .closed url
  | a :: rest =>
    if a == 10 then strayFault url rest
    else if a == 13 then
      match rest with
      | [] => .closed url
      | b :: rest => if b == 10 then strayFault url rest else .badHeader url
    else if (a :: rest).isPrefixOf answerMark then .closed url
    else .badVersion url

structure Network where
  server : Option (Host × Nat)
  replies : List Reply
  /-- What the server was asked. -/
  sent : List Message

namespace Network

/-- A network on which nothing answers. -/
def silent : Network := ⟨none, [], []⟩

def answerOf (reply : Reply) (timeout : Nat) (url : Url) : Except NetworkFault Answer :=
  if timeout ≤ reply.delay then .error (.timedOut url.text)
  else if reply.closes then .error (.closed url.text)
  else if reply.status < leastStatus ∨ greatestStatus < reply.status then
    .error (.badStatus url.text)
  else if isPassing reply.status then
    .error (strayFault url.text reply.body)
  else if hasBody reply.status then .ok ⟨reply.status, reply.body, reply.cut⟩
  else .ok ⟨reply.status, [], false⟩

/-- Sends a request to where an address says. -/
def send (network : Network) (url : Url) (timeout : Nat) (message : Message) :
    Except NetworkFault Answer × Network :=
  if network.server.isSome ∧ network.server = url.destination then
    (answerOf (network.replies.headD .last) timeout url,
      { network with replies := network.replies.tail, sent := network.sent ++ [message] })
  else (.error (.refused url.text), network)

/-- Sends a request to an address that has yet to be read. -/
def request (network : Network) (address method userAgent : String) (part : Option Part)
    (timeout : Nat) : Except NetworkFault Answer × Network :=
  match Url.parse address with
  | .error fault => (.error (.badUrl fault), network)
  | .ok url =>
    let url := url.withoutCredentials
    if !url.isWeb then (.error (.badScheme url.text), network)
    else if !url.isNameable then (.error (.badUri url.text), network)
    else network.send url timeout ⟨method, url.target, userAgent, part⟩

end Network

end ScanClient.Http
