import ScanClient.Text.Controls

/-!
# Commands

What a command line can ask for, and why it may ask for nothing that can be done.
-/

namespace ScanClient.Cli

inductive Command where
  /-- Scan a file; the result is shown as a report, or as JSON. -/
  | scan (file : String) (json : Bool)
  | validate (file : String)
  | health
  | modelInfo
  deriving DecidableEq, Repr

/-- A command with the address of the service it uses. -/
structure Invocation where
  url : String
  command : Command
  deriving DecidableEq, Repr

/-- What there is help about. -/
inductive Topic where
  | program
  | scan
  | validate
  | health
  | modelInfo
  | help
  deriving DecidableEq, Repr

/-- The words that begin a command, with their help. -/
def commandWords : List (String × Topic) :=
  [("scan", .scan), ("validate", .validate), ("health", .health), ("model-info", .modelInfo),
    ("help", .help)]

inductive UsageError where
  | unrecognizedCommand (word : String)
  | unexpectedArgument (word : String)
  | unexpectedValue (value option : String)
  | repeatedOption (option : String)
  | missingUrl
  | missingFile
  | missingCommand
  /-- An argument that has to be text is not. -/
  | malformedText
  deriving DecidableEq, Repr

/-- The option that takes the address of the service, with the name of its value. -/
def urlOption : String := "--url <URL>"

/-- The error in one line. Words of the command line are shown without control characters. -/
def UsageError.message : UsageError → String
  | .unrecognizedCommand word =>
    "unrecognized subcommand '" ++ Text.withoutControls word ++ "'"
  | .unexpectedArgument word => "unexpected argument '" ++ Text.withoutControls word ++ "' found"
  | .unexpectedValue value option =>
    "unexpected value '" ++ Text.withoutControls value ++ "' for '" ++ option ++
      "' found; no more were expected"
  | .repeatedOption option => "the argument '" ++ option ++ "' cannot be used multiple times"
  | .missingUrl => "a value is required for '" ++ urlOption ++ "' but none was supplied"
  | .missingFile => "the following required arguments were not provided:"
  | .missingCommand => "'cyberguard' requires a subcommand but one was not provided"
  | .malformedText => "invalid UTF-8 was detected in one or more arguments"

/-- Why a command line leads to no command. -/
inductive Refusal where
  /-- Help was asked for. -/
  | help (topic : Topic)
  | version
  /-- Nothing at all was asked for. -/
  | nothingAsked
  | misused (error : UsageError)
  deriving DecidableEq, Repr

end ScanClient.Cli
