import ScanClient.Cli.Program

/-!
# Command line

Gathers the arguments, the variables and the file a command names, runs the program on them, and
writes what it answers. There is no network here: every address refuses a connection.
-/

namespace ScanClient.Cli

/-- The variables the program looks at. -/
def variableNames : List String :=
  ["CYBERGUARD_API_URL", "CYBERGUARD_TIMEOUT_SECS", "CYBERGUARD_POLL_INTERVAL_MS",
    "CYBERGUARD_MAX_POLLS", "CYBERGUARD_LOG", "RUST_LOG"]

def gatherEnvironment : IO Environment := do
  let found ← variableNames.filterMapM fun name => do
    return (← IO.getEnv name).map fun value => (name, Text.Utf8.encodeText value)
  return ⟨found⟩

/-- The path a command names. -/
def Command.path? : Command → Option String
  | .scan path _ => some path
  | .validate path => some path
  | .health | .modelInfo => none

/-- What is found at a path: the contents of a file, a folder, or nothing. -/
def gatherNode (path : String) : IO (Option Files.Node) := do
  if ← ((← IO.currentDir) / path).isDir then return some .folder
  try
    return some (.file (.bytes (← IO.FS.readBinFile path).toList))
  catch _ => return none

/-- A tree with what is found at a path. -/
def gatherTree (path : String) : IO Files.Tree := do
  let bytes := Text.Utf8.encodeText path
  let empty : Files.Tree := ⟨[], []⟩
  let above := empty.putFolder ([Files.slash].intercalate (Files.splitPath bytes).dropLast)
  match ← gatherNode path with
  | some (.file contents) => return above.putFile bytes contents
  | some _ => return above.putFolder bytes
  | _ => return empty

def gatherWorld (arguments : List Argument) : IO World := do
  let environment ← gatherEnvironment
  let tree ←
    match (Invocation.parse environment arguments).toOption.bind fun i => i.command.path? with
    | some path => gatherTree path
    | none => pure ⟨[], []⟩
  let now ← IO.monoMsNow
  return { environment, tree, network := .silent, time := toString now ++ "ms", latency := 0 }

end ScanClient.Cli

def main (words : List String) : IO UInt32 := do
  let arguments := words.map ScanClient.Text.Utf8.encodeText
  let outcome := ScanClient.Cli.run (← ScanClient.Cli.gatherWorld arguments) arguments
  (← IO.getStdout).putStr (ScanClient.Cli.textOfLines outcome.output)
  (← IO.getStderr).putStr (ScanClient.Cli.textOfLines outcome.errors)
  return outcome.exit.code.toUInt32
