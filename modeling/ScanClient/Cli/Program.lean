import ScanClient.Cli.Arguments
import ScanClient.Cli.Help
import ScanClient.Cli.Progress
import ScanClient.Cli.Report
import ScanClient.Http.Client
import ScanClient.Json.Writer
import ScanClient.Log.Filter
import ScanClient.Log.Line

/-!
# The program

A command line from its arguments to its exit code, in a given world. Standard output and standard
error are the lines that go there, whatever the order between the two.
-/

namespace ScanClient.Cli

open Log

/-- What a run of the program finds and does not change, but for the network. -/
structure World where
  environment : Environment
  tree : Files.Tree
  network : Http.Network
  /-- The time log lines show. -/
  time : String
  /-- The milliseconds until the service tells its health. -/
  latency : Nat
  /-- Whether the progress of a scan is looked at before the attempt has its next value, by the
  number of the value. -/
  looks : Nat → Bool := fun _ => true

/-- How a run ends. -/
inductive Exit where
  | success
  | failure
  /-- The scanned file is malicious. -/
  | malicious
  /-- The command line asks for nothing that can be done. -/
  | misuse
  deriving DecidableEq, Repr

def Exit.code : Exit → Nat
  | .success => 0
  | .failure => 1
  | .malicious => 2
  | .misuse => 2

/-- What a command comes to. -/
structure Ending where
  exit : Exit
  output : List String
  /-- Why the command failed, if it did. -/
  failure : Option String
  events : List Event
  network : Http.Network

namespace Ending

/-- Failed before anything was shown. -/
def failed (message : String) (network : Http.Network) : Ending :=
  ⟨.failure, [], some message, [], network⟩

end Ending

/-- An error with all its reasons. -/
def fullMessage (e : ScanError) : String := ": ".intercalate (e.message :: e.reasons)

def openFile (tree : Files.Tree) (path : String) : Except String ScanFile :=
  (ScanFile.select tree (Text.Utf8.encodeText path)).mapError fun fault =>
    "cannot open " ++ path ++ ": " ++ fault.message

/-- The client that settings ask for. -/
def connect (settings : Settings) : Except String Http.Client :=
  (Http.Client.new settings.baseUrl (settings.timeout * 1000)).mapError fun e =>
    "invalid scan service configuration: " ++ fullMessage e

def logged (effects : List Effect) : List Event :=
  effects.filterMap fun effect =>
    match effect with
    | .publish _ => none
    | .log event => some event

/-- The lines of a value as JSON; null has none. -/
def valueLines (v : Json.Value) : List String := if v.isNull then [] else [v.sorted.pretty]

def verdictExit (r : ScanResult) : Exit := if r.isMalicious then .malicious else .success

/-- Whether the attempt that a scan ended in is a success, and if not, why. -/
def concludeScan (a : Attempt) : Except String ScanResult :=
  match a.phase, a.result with
  | .completed, some r => .ok r
  | .completed, none => .error "scan completed without a result"
  | .failed, _ => .error ((a.error.map Failure.message).getD "scan failed")
  | phase, _ => .error ("scan ended unexpectedly in phase " ++ phase.name)

/-- The values of an attempt that are looked at before the next one comes. -/
def glimpsed (looks : Nat → Bool) (values : List Attempt) : List Attempt :=
  (values.zipIdx.filter fun value => looks value.2).map Prod.fst

/-- What a scan shows: the attempt as JSON, or its progress, told from some values of the attempt
and from the last, and the report on its result. -/
def scanLines (json : Bool) (file : ScanFile) (seen : List Attempt) (a : Attempt) : List String :=
  if json then valueLines a.toValue
  else
    scanTitle file.name ++
      (Progress.start.lines (seen ++ [a])).map progressLine ++
      match concludeScan a with
      | .ok r => resultLines r
      | .error _ => []

def runScan (world : World) (settings : Settings) (path : String) (json : Bool) : Ending :=
  match openFile world.tree path with
  | .error message => .failed message world.network
  | .ok file =>
    match connect settings with
    | .error message => .failed message world.network
    | .ok client =>
      let rules : Rules := ⟨settings.poll, settings.limits⟩
      let scan := Scan.run client.service world.tree rules file
        (.fresh 0 settings.poll.maxAttempts) world.network
      let seen := glimpsed world.looks (publications scan.effects)
      let conclusion := concludeScan scan.attempt
      { exit := match conclusion with
          | .ok r => verdictExit r
          | .error _ => .failure
        output := scanLines json file seen scan.attempt
        failure := match conclusion with
          | .ok _ => none
          | .error message => some message
        events := .serviceChosen client.baseUrl :: logged scan.effects
        network := scan.service }

def runValidate (world : World) (settings : Settings) (path : String) : Ending :=
  match openFile world.tree path with
  | .error message => .failed message world.network
  | .ok file =>
    match settings.limits.check file.name file.size with
    | .error rejection => .failed rejection.message world.network
    | .ok () => ⟨.success, [readyLine file.name file.size], none, [], world.network⟩

def runHealth (world : World) (settings : Settings) : Ending :=
  match connect settings with
  | .error message => .failed message world.network
  | .ok client =>
    let (answer, network) := client.health world.network
    match answer with
    | .error e =>
      .failed ("scan service at " ++ client.baseUrl ++ " is unreachable: " ++ fullMessage e) network
    | .ok h =>
      ⟨if h.ok then .success else .failure, healthLines client.baseUrl world.latency h, none, [],
        network⟩

def runModelInfo (world : World) (settings : Settings) : Ending :=
  match connect settings with
  | .error message => .failed message world.network
  | .ok client =>
    let (answer, network) := client.modelInfo world.network
    match answer with
    | .error e => .failed (fullMessage e) network
    | .ok info => ⟨.success, valueLines info, none, [], network⟩

def runCommand (world : World) (settings : Settings) : Command → Ending
  | .scan path json => runScan world settings path json
  | .validate path => runValidate world settings path
  | .health => runHealth world settings
  | .modelInfo => runModelInfo world settings

/-- What others see of a run of the program. -/
structure Outcome where
  exit : Exit
  output : List String
  errors : List String
  network : Http.Network

/-- The lines of a log under the filter of the environment. -/
def logLines (world : World) (events : List Event) : List String :=
  let (filter, complaints) := Filter.ofEnvironment world.environment
  complaints ++ ((events.map Event.entry).filter filter.admits).map fun entry =>
    entry.line world.time

/-- Runs a command for the service at an address. -/
def runInvocation (world : World) (invocation : Invocation) : Outcome :=
  let (settings, warnings) := Settings.ofEnvironment world.environment
  let ending := runCommand world { settings with baseUrl := invocation.url } invocation.command
  { exit := ending.exit
    output := ending.output
    errors := logLines world (warnings ++ ending.events) ++
      (match ending.failure with
        | some message => failureLines message
        | none => [])
    network := ending.network }

/-- Answers a command line that leads to no command. -/
def refuse (world : World) : Refusal → Outcome
  | .help topic => ⟨.success, [topic.text world.environment], [], world.network⟩
  | .version => ⟨.success, [versionLine], [], world.network⟩
  | .nothingAsked => ⟨.misuse, [], [Topic.program.text world.environment], world.network⟩
  | .misused error => ⟨.misuse, [], ["error: " ++ error.message], world.network⟩

/-- Runs the program on the arguments of a command line. -/
def run (world : World) (arguments : List Argument) : Outcome :=
  match Invocation.parse world.environment arguments with
  | .ok invocation => runInvocation world invocation
  | .error refusal => refuse world refusal

/-- The text of some lines, each of which ends. -/
def textOfLines (lines : List String) : String := String.join (lines.map (· ++ "\n"))

end ScanClient.Cli
