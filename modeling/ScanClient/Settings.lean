import ScanClient.Environment
import ScanClient.Limits
import ScanClient.Log.Event
import ScanClient.Number.Unsigned
import ScanClient.Text.Blank

/-!
# Settings

Where the scan service is, how long to wait for it and how often to ask. Whatever the environment
does not set, or sets to something unusable, has its default.
-/

namespace ScanClient

/-- How often, and how many times, the service is asked about a scan. -/
structure PollPolicy where
  /-- The wait between two polls, in milliseconds. -/
  interval : Nat
  maxAttempts : Nat
  deriving DecidableEq, Repr, Inhabited

def PollPolicy.standard : PollPolicy where
  interval := 1000
  maxAttempts := 30

/-- The number of polls an attempt may make: at least one, whatever the policy says. -/
def PollPolicy.budget (policy : PollPolicy) : Nat := max 1 policy.maxAttempts

structure Settings where
  baseUrl : String
  /-- How long a request may take, in seconds. -/
  timeout : Nat
  poll : PollPolicy
  limits : Limits
  deriving DecidableEq, Repr, Inhabited

namespace Settings

def defaultBaseUrl : String := "http://127.0.0.1:8000/api"

def standard : Settings where
  baseUrl := defaultBaseUrl
  timeout := 30
  poll := .standard
  limits := .standard

/-- The number a variable is set to. A text that is neither blank nor a number is reported. -/
def readNumber (env : Environment) (key : String) (limit : Nat) :
    Option Nat × List Log.Event :=
  match env.text? key with
  | none => (none, [])
  | some raw =>
    let trimmed := Text.trimChars raw.toList
    if trimmed.isEmpty then (none, [])
    else
      match parseUnsigned limit trimmed with
      | some n => (some n, [])
      | none => (none, [.settingIgnored key raw])

def positive (n : Option Nat) : Option Nat := n.filter (0 < ·)

def readBaseUrl (env : Environment) : String :=
  ((env.text? "CYBERGUARD_API_URL").filter fun url => !Text.isBlankText url).getD defaultBaseUrl

/-- The settings of an environment, and what there is to report about them. -/
def ofEnvironment (env : Environment) : Settings × List Log.Event :=
  let (timeout, warned₁) := readNumber env "CYBERGUARD_TIMEOUT_SECS" maxUInt64
  let (interval, warned₂) := readNumber env "CYBERGUARD_POLL_INTERVAL_MS" maxUInt64
  let (maxAttempts, warned₃) := readNumber env "CYBERGUARD_MAX_POLLS" maxUInt32
  ({ baseUrl := readBaseUrl env
     timeout := (positive timeout).getD standard.timeout
     poll :=
      { interval := interval.getD standard.poll.interval
        maxAttempts := (positive maxAttempts).getD standard.poll.maxAttempts }
     limits := standard.limits },
   warned₁ ++ warned₂ ++ warned₃)

end Settings

end ScanClient
