import ScanClient.Cli.Command
import ScanClient.Settings
import ScanClient.Text.Styled

/-!
# Help

The text on each topic, line by line.
-/

namespace ScanClient.Cli

open Text

def versionLine : String := "cyberguard 0.1.0"

/-- The column that descriptions of the program's options begin in. -/
def descriptionColumn : Nat := 19

/-- A text whose further lines begin in the column of descriptions. -/
def indented (s : String) : String :=
  String.ofList
    (s.toList.flatMap fun c =>
      if c = '\n' then c :: List.replicate descriptionColumn ' ' else [c])

/-- The short and the long name of an option. -/
def options (short long : String) : String := styled [.bold] short ++ ", " ++ styled [.bold] long

def urlHelp (env : Environment) : String :=
  let set := Utf8.decodeLossy ((env.bytes? "CYBERGUARD_API_URL").getD [])
  "      --url <URL>  " ++
    indented ("Scan service base URL [env: CYBERGUARD_API_URL=" ++ set ++ "] [default: " ++
      Settings.defaultBaseUrl ++ "]")

def programHelp (env : Environment) : List String :=
  ["CyberGuard CLI — scan .jar, .class, and .zip files for malware",
    "",
    "Usage: cyberguard [OPTIONS] <COMMAND>",
    "",
    "Commands:",
    "  scan        Upload a file and wait for its scan verdict",
    "  validate    Check a file against the upload rules without sending it",
    "  health      Show scan service health",
    "  model-info  Show metadata about the scan service's classifier",
    "  help        Print this message or the help of the given subcommand(s)",
    "",
    "Options:",
    urlHelp env,
    "  " ++ options "-h" "--help" ++ "       Print help",
    "  " ++ options "-V" "--version" ++ "    Print version",
    "",
    "Environment variables:",
    "  CYBERGUARD_API_URL           Scan service base URL (default: " ++
      Settings.defaultBaseUrl ++ ")",
    "  CYBERGUARD_TIMEOUT_SECS      Per-request timeout (default: 30)",
    "  CYBERGUARD_POLL_INTERVAL_MS  Delay between status checks (default: 1000)",
    "  CYBERGUARD_MAX_POLLS         Status checks before timing out (default: 30)",
    "  CYBERGUARD_LOG               Log filter when RUST_LOG is unset (default: warn)",
    "",
    "Examples:",
    "  cyberguard scan ./suspicious.jar",
    "  cyberguard scan ./Payload.class --json",
    "  cyberguard validate ./bundle.zip",
    "  cyberguard health"]

def scanHelp : List String :=
  ["Upload a file and wait for its scan verdict",
    "",
    "Usage: cyberguard scan [OPTIONS] <FILE>",
    "",
    "Arguments:",
    "  <FILE>  Path to a .jar, .class, or .zip file",
    "",
    "Options:",
    "      --json  Print the final attempt as JSON instead of a report",
    "  -h, --help  Print help"]

def validateHelp : List String :=
  ["Check a file against the upload rules without sending it",
    "",
    "Usage: cyberguard validate <FILE>",
    "",
    "Arguments:",
    "  <FILE>  Path to the file to check",
    "",
    "Options:",
    "  -h, --help  Print help"]

/-- The help of a command that takes nothing. -/
def bareHelp (word description : String) : List String :=
  [description, "", "Usage: cyberguard " ++ word, "", "Options:", "  -h, --help  Print help"]

def helpHelp : List String :=
  ["Print this message or the help of the given subcommand(s)",
    "",
    "Usage: cyberguard help [COMMAND]...",
    "",
    "Arguments:",
    "  [COMMAND]...  Print help for the subcommand(s)"]

def Topic.lines (env : Environment) : Topic → List String
  | .program => programHelp env
  | .scan => scanHelp
  | .validate => validateHelp
  | .health => bareHelp "health" "Show scan service health"
  | .modelInfo => bareHelp "model-info" "Show metadata about the scan service's classifier"
  | .help => helpHelp

/-- The help on a topic. Its styles go, and with them the control characters that the environment
puts into it. -/
def Topic.text (env : Environment) (topic : Topic) : String :=
  withoutControls ("\n".intercalate (topic.lines env))

end ScanClient.Cli
