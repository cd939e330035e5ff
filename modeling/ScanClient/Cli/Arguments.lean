import ScanClient.Cli.Command
import ScanClient.Settings

/-!
# Arguments

The command line from left to right. The address of the service comes before the command, and every
other option after it; after a bare `--` nothing is an option any more. The first fault decides,
where the value of an option is looked at when the next option comes, and options before a command
are looked at once more after it.
-/

namespace ScanClient.Cli

open Text

abbrev Argument := List UInt8

def hyphen : UInt8 := 0x2D

def equalsSign : UInt8 := 0x3D

/-- The form of an argument. -/
inductive Word where
  | separator
  /-- An option by its name, with the value behind an equals sign. -/
  | long (name : Argument) (value : Option Argument)
  /-- Options of one letter each. -/
  | short (letters : Argument)
  | plain
  deriving DecidableEq, Repr

def Word.ofArgument : Argument → Word
  | a :: b :: rest =>
    if a ≠ hyphen then .plain
    else if b ≠ hyphen then .short (b :: rest)
    else if rest.isEmpty then .separator
    else
      let name := rest.takeWhile (· != equalsSign)
      .long name (rest.drop name.length).tail?
  | _ => .plain

def lossy (argument : Argument) : String := Utf8.decodeLossy argument

/-- The topic of a word that begins a command. -/
def topicOf (argument : Argument) : Option Topic :=
  (Utf8.decode? argument).bind fun word => commandWords.lookup word

def misuse (error : UsageError) : Except Refusal α := .error (.misused error)

def requireText (argument : Argument) : Except Refusal String :=
  match Utf8.decode? argument with
  | some s => .ok s
  | none => misuse .malformedText

/-- The first of some letters, or all of them if they do not begin with text. -/
def firstLetter (letters : Argument) : String :=
  match Utf8.pieces letters with
  | some c :: _ => c.toString
  | _ => lossy letters

/-- An option that is not known, whatever its value. -/
def unknownLong (name : Argument) : Except Refusal α :=
  misuse (.unexpectedArgument ("--" ++ lossy name))

def unknownShort (letters : Argument) : Except Refusal α :=
  misuse (.unexpectedArgument ("-" ++ firstLetter letters))

def isNamed (name : Argument) (text : String) : Bool := name == Utf8.encodeText text

/-! ## After the command -/

/-- What a command takes. -/
structure Form where
  topic : Topic
  takesFile : Bool
  takesJson : Bool

/-- What a command has been given. -/
structure Given where
  file : Option Argument
  json : Bool

/-- Looks at the file. -/
def Given.settle (given : Given) : Except Refusal Unit :=
  match given.file with
  | some file => (requireText file).map fun _ => ()
  | none => .ok ()

def Form.takePlain (form : Form) (given : Given) (argument : Argument) : Except Refusal Given :=
  if form.takesFile ∧ given.file.isNone then .ok { given with file := some argument }
  else misuse (.unexpectedArgument (lossy argument))

def Form.takeLong (form : Form) (given : Given) (name : Argument) (value : Option Argument) :
    Except Refusal Given :=
  if isNamed name "help" then
    match value with
    | some v => misuse (.unexpectedValue (lossy v) "--help")
    | none => do
      given.settle
      .error (.help form.topic)
  else if form.takesJson ∧ isNamed name "json" then
    match value with
    | some v => misuse (.unexpectedValue (lossy v) "--json")
    | none => do
      given.settle
      if given.json then misuse (.repeatedOption "--json") else pure { given with json := true }
  else unknownLong name

def Form.takeShort (form : Form) (given : Given) (letters : Argument) : Except Refusal Given :=
  if firstLetter letters = "h" then do
    given.settle
    .error (.help form.topic)
  else unknownShort letters

/-- Reads the arguments of a command. -/
def Form.read (form : Form) : (given : Given) → List Argument → Except Refusal Given
  | given, [] => do
    given.settle
    pure given
  | given, argument :: rest =>
    match Word.ofArgument argument with
    | .separator => do
      let given ← rest.foldlM form.takePlain given
      given.settle
      pure given
    | .long name value => do form.read (← form.takeLong given name value) rest
    | .short letters => do form.read (← form.takeShort given letters) rest
    | .plain => do form.read (← form.takePlain given argument) rest

def Given.requireFile (given : Given) : Except Refusal String :=
  match given.file with
  | some file => requireText file
  | none => misuse .missingFile

/-- The topic that words after `help` lead to. Only the program has commands to go on to. -/
def helpTopic : Topic → List Argument → Except Refusal Topic
  | topic, [] => .ok topic
  | topic, argument :: rest =>
    match topic, topicOf argument with
    | .program, some next => helpTopic next rest
    | _, _ => misuse (.unrecognizedCommand (lossy argument))

/-- Reads the arguments of the command that a word begins. -/
def readCommand (topic : Topic) (arguments : List Argument) : Except Refusal Command :=
  match topic with
  | .scan => do
    let given ← (Form.mk .scan true true).read ⟨none, false⟩ arguments
    pure (.scan (← given.requireFile) given.json)
  | .validate => do
    let given ← (Form.mk .validate true false).read ⟨none, false⟩ arguments
    pure (.validate (← given.requireFile))
  | .health => do
    let _ ← (Form.mk .health false false).read ⟨none, false⟩ arguments
    pure .health
  | .modelInfo => do
    let _ ← (Form.mk .modelInfo false false).read ⟨none, false⟩ arguments
    pure .modelInfo
  | .help | .program => do .error (.help (← helpTopic .program arguments))

/-! ## Before the command -/

/-- A value of the address option that has not been looked at yet. -/
inductive Pending where
  | nothing
  /-- The option has been named, and its value comes next. -/
  | awaited
  | value (argument : Argument)
  deriving DecidableEq, Repr

/-- What comes before the command. -/
structure Head where
  url : Option String
  pending : Pending

namespace Head

def empty : Head := ⟨none, .nothing⟩

/-- Takes an address that has been given. -/
def takeUrl (head : Head) (argument : Argument) : Except Refusal Head :=
  if head.url.isSome then misuse (.repeatedOption urlOption)
  else do pure ⟨some (← requireText argument), .nothing⟩

/-- Looks at the value that has not been looked at yet. -/
def settle (head : Head) : Except Refusal Head :=
  match head.pending with
  | .nothing => .ok head
  | .awaited => misuse .missingUrl
  | .value argument => { head with pending := .nothing }.takeUrl argument

/-- The address to use: the one given, else the one of the environment, else the usual one. -/
def address (head : Head) (env : Environment) : Except Refusal String :=
  match head.url, env.bytes? "CYBERGUARD_API_URL" with
  | some url, _ => .ok url
  | none, some value => requireText value
  | none, none => .ok Settings.defaultBaseUrl

/-- Whether an address was given, in one way or the other. -/
def hasAddress (head : Head) (env : Environment) : Bool :=
  head.url.isSome || (env.bytes? "CYBERGUARD_API_URL").isSome

/-- What a command line without a command leads to. -/
def withoutCommand (head : Head) (env : Environment) : Except Refusal α := do
  let head ← head.settle
  let _ ← head.address env
  if head.hasAddress env then misuse .missingCommand else .error .nothingAsked

def invoke (head : Head) (env : Environment) (topic : Topic) (arguments : List Argument) :
    Except Refusal Invocation := do
  let command ← readCommand topic arguments
  let head ← head.settle
  pure ⟨← head.address env, command⟩

/-- Takes an option other than the address; each of them ends the reading. -/
def takeOther (head : Head) (name : Argument) (value : Option Argument) : Except Refusal α :=
  let ask (text : String) (refusal : Refusal) : Except Refusal α :=
    match value with
    | some v => misuse (.unexpectedValue (lossy v) text)
    | none => do
      let _ ← head.settle
      .error refusal
  if isNamed name "help" then ask "--help" (.help .program)
  else if isNamed name "version" then ask "--version" .version
  else unknownLong name

def takeShort (head : Head) (letters : Argument) : Except Refusal α :=
  match firstLetter letters with
  | "h" => do
    let _ ← head.settle
    .error (.help .program)
  | "V" => do
    let _ ← head.settle
    .error .version
  | _ => unknownShort letters

/-- What the first argument after a separator leads to; there is no place for one. -/
def afterSeparator (head : Head) (env : Environment) : List Argument → Except Refusal α
  | [] => head.withoutCommand env
  | argument :: _ =>
    if (topicOf argument).isSome then misuse (.unexpectedArgument (lossy argument))
    else misuse (.unrecognizedCommand (lossy argument))

def read (env : Environment) : (head : Head) → List Argument → Except Refusal Invocation
  | head, [] => head.withoutCommand env
  | head, argument :: rest =>
    match Word.ofArgument argument with
    | .separator => head.afterSeparator env rest
    | .long name value =>
      if isNamed name "url" then do
        let head ← head.settle
        match value with
        | some v => read env (← head.takeUrl v) rest
        | none => read env { head with pending := .awaited } rest
      else head.takeOther name value
    | .short letters => head.takeShort letters
    | .plain =>
      if head.pending = .awaited then read env { head with pending := .value argument } rest
      else
        match topicOf argument with
        | some topic => head.invoke env topic rest
        | none => misuse (.unrecognizedCommand (lossy argument))

end Head

/-- What a command line asks for in an environment. -/
def Invocation.parse (env : Environment) (arguments : List Argument) :
    Except Refusal Invocation :=
  Head.read env .empty arguments

end ScanClient.Cli
