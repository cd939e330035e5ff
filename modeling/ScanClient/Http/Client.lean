import ScanClient.Health
import ScanClient.Http.Network
import ScanClient.Json.Reader
import ScanClient.Scan

/-!
# The service over HTTP

The calls of the scan service as requests below a base address. A status that is no success is an
error whatever the body says; only then is the body read.
-/

namespace ScanClient.Http

open Log

structure Client where
  baseUrl : String
  /-- How long a request may take, in milliseconds. -/
  timeout : Nat
  deriving DecidableEq, Repr

def userAgent : String := "cyberguard-client/0.1.0"

/-- A base address without blanks around it and slashes at its end. -/
def normalizeBase (text : String) : String :=
  String.ofList (Text.dropEndWhile (· == '/') (Text.trimChars text.toList))

def missingBase : String := "missing base URL — set CYBERGUARD_API_URL or pass base_url in config"

/-- The characters that a quoted file name has a backslash before. -/
def needsBackslash (c : Char) : Bool := c == '\\' || c == '"' || c == '\r' || c == '\n'

def escapeFilename (name : String) : String :=
  String.ofList (name.toList.flatMap fun c => if needsBackslash c then ['\\', c] else [c])

/-- The part of a form that uploads a file. -/
def filePart (filename : String) (contents : Blob) : Part where
  headers :=
    ["Content-Disposition: form-data; name=\"file\"; filename=\"" ++
        escapeFilename filename ++ "\"",
      "Content-Type: application/octet-stream"]
  contents := contents

def transportError (operation : String) (status : Nat) : ScanError :=
  .transport operation status (statusText status)

/-- The text of an answer that is a success. -/
def successText (operation : String) (answer : Except NetworkFault Answer) :
    Except ScanError String := do
  let answer ← answer.mapError .network
  if isSuccess answer.status then answer.text.mapError .network
  else .error (transportError operation answer.status)

namespace Client

/-- A client for the service at a base address. -/
def new (baseUrl : String) (timeout : Nat) : Except ScanError Client :=
  let base := normalizeBase baseUrl
  if base.isEmpty then .error (.config missingBase) else .ok ⟨base, timeout⟩

def uploadUrl (client : Client) : String := client.baseUrl ++ "/upload/"

def statusUrl (client : Client) (scanId : String) : String :=
  client.baseUrl ++ "/scan/" ++ encodeSegment scanId ++ "/"

def get (client : Client) (url : String) (network : Network) :
    Except NetworkFault Answer × Network :=
  network.request url "GET" userAgent none client.timeout

/-- The receipt a body holds; a blank one holds an empty receipt. -/
def readReceipt (text : String) : Except ScanError Receipt :=
  if Text.isBlankText text then .ok .empty else (Receipt.parse text).mapError .body

/-- Uploads a file. -/
def upload (client : Client) (filename : String) (contents : Blob) (network : Network) :
    Except ScanError Receipt × List Event × Network :=
  let url := client.uploadUrl
  let (answer, network) :=
    network.request url "POST" userAgent (some (filePart filename contents)) client.timeout
  (successText "Upload" answer >>= readReceipt,
    [.uploadRequested url filename contents.size], network)

/-- Asks how a scan is doing. -/
def poll (client : Client) (scanId : String) (network : Network) :
    Except ScanError Response × List Event × Network :=
  let url := client.statusUrl scanId
  let (answer, network) := client.get url network
  (successText "Status check" answer >>= fun text => (Response.parse text).mapError .body,
    [.statusRequested url], network)

/-- The service for scans. -/
def service (client : Client) : Service Network where
  upload := client.upload
  poll := client.poll

/-- What an answer says about the health of the service. The service may also say that it is not
available, which is an answer like any other. -/
def readHealth (answer : Except NetworkFault Answer) : Except ScanError Health := do
  let answer ← answer.mapError .network
  let ok := isSuccess answer.status
  if !ok ∧ answer.status ≠ serviceUnavailable then
    .error (transportError "Health check" answer.status)
  else
    let text ← answer.text.mapError .network
    pure ⟨ok, answer.status, (Json.parse text).toOption.getD .null⟩

/-- Asks how the service is doing. -/
def health (client : Client) (network : Network) : Except ScanError Health × Network :=
  let (answer, network) := client.get (client.baseUrl ++ "/health/") network
  (readHealth answer, network)

/-- Asks for the document on the classifier. -/
def modelInfo (client : Client) (network : Network) : Except ScanError Json.Value × Network :=
  let (answer, network) := client.get (client.baseUrl ++ "/model-info/") network
  (successText "Model info request" answer >>= fun text => (Json.parse text).mapError .body,
    network)

end Client

end ScanClient.Http
