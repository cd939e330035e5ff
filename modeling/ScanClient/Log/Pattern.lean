import ScanClient.Text.Alphanumeric
import ScanClient.Text.Hex

/-!
# Patterns

The value of a field in a log filter may be a pattern. No event is held against it, but a directive
counts only if its pattern can be read. Classes of letters by name, and letters in either case, are
not to be had.
-/

namespace ScanClient.Log

open Text

/-- Why a text is no pattern. -/
inductive PatternFault where
  | unreadable
  /-- It asks where a word begins or ends, which no pattern is made for. -/
  | wordBoundary
  deriving DecidableEq, Repr

namespace Pattern

/-! ## Escapes -/

/-- What a backslash and what follows it stand for. -/
inductive Escape where
  | character (c : Char)
  /-- The beginning or the end of the text. -/
  | anchor
  | wordBoundary
  deriving DecidableEq, Repr

def controlEscapes : List (Char × Char) :=
  [('a', '\x07'), ('f', '\x0C'), ('n', '\n'), ('r', '\r'), ('t', '\t'), ('v', '\x0B')]

/-- How many digits of a code point follow. -/
def codeEscapes : List (Char × Nat) := [('x', 2), ('u', 4), ('U', 8)]

/-- Whether a character stands for itself behind a backslash. -/
def standsEscaped (c : Char) : Bool := c.toNat < 0x80 && !c.isAlphanum && c != '<' && c != '>'

/-- The character that some digits are the code point of. -/
def charOfDigits (digits : List Char) : Option Char := do
  let values ← digits.mapM hexDigitValue
  let code := values.foldl (fun n d => n * 16 + d) 0
  if code.isValidChar then some (Char.ofNat code) else none

/-- Reads what follows a backslash. -/
def readEscape : List Char → Option (Escape × List Char)
  | [] => none
  | c :: rest =>
    match controlEscapes.lookup c, codeEscapes.lookup c with
    | some meant, _ => some (.character meant, rest)
    | none, some count =>
      if rest.length < count then none
      else (charOfDigits (rest.take count)).map fun meant => (.character meant, rest.drop count)
    | none, none =>
      if standsEscaped c then some (.character c, rest)
      else if c = 'A' ∨ c = 'z' then some (.anchor, rest)
      else if "bB<>".toList.contains c then some (.wordBoundary, rest)
      else none

/-! ## Classes -/

def namedClasses : List String :=
  ["alnum", "alpha", "ascii", "blank", "cntrl", "digit", "graph", "lower", "print", "punct",
    "space", "upper", "word", "xdigit"]

/-- What is left behind a class by name, which stands between colons before a bracket. -/
def skipNamedClass : List Char → Option (List Char)
  | ':' :: rest =>
    let rest := if rest.head? = some '^' then rest.drop 1 else rest
    let name := rest.takeWhile (· != ':')
    match rest.drop name.length with
    | ':' :: ']' :: behind =>
      if namedClasses.contains (String.ofList name) then some behind else none
    | _ => none
  | _ => none

/-- What is left behind an opening bracket and what means something else there: a caret, and then
dashes or a closing bracket. -/
def skipClassStart (s : List Char) : List Char :=
  let s := if s.head? = some '^' then s.drop 1 else s
  if s.head? = some ']' then s.drop 1 else s.dropWhile (· == '-')

def readClassChar : List Char → Option (Char × List Char)
  | [] => none
  | '\\' :: rest =>
    match readEscape rest with
    | some (.character c, behind) => some (c, behind)
    | _ => none
  | c :: rest => some (c, rest)

/-- What is left behind a character of a class, or a range that does not run backwards. -/
def skipRange (s : List Char) : Option (List Char) := do
  let (first, rest) ← readClassChar s
  match rest with
  | '-' :: ']' :: _ => some rest
  | '-' :: '-' :: _ => some rest
  | '-' :: behind => do
    let (last, behind) ← readClassChar behind
    if first ≤ last then some behind else none
  | _ => some rest

/-- What is left behind a class, at a depth of classes within it. -/
def skipClass (depth : Nat) : (fuel : Nat) → List Char → Option (List Char)
  | 0, _ => none
  | fuel + 1, s =>
    match s with
    | [] => none
    | '[' :: rest =>
      match skipNamedClass rest with
      | some behind => skipClass depth fuel behind
      | none => skipClass (depth + 1) fuel (skipClassStart rest)
    | ']' :: rest => if depth = 0 then some rest else skipClass (depth - 1) fuel rest
    | '&' :: '&' :: rest => skipClass depth fuel rest
    | '-' :: '-' :: rest => skipClass depth fuel rest
    | '~' :: '~' :: rest => skipClass depth fuel rest
    | s => (skipRange s).bind (skipClass depth fuel)

/-! ## Groups -/

/-- How a group begins. -/
inductive GroupStart where
  | plain
  | named (name : List Char)
  /-- No group, but flags for what follows. -/
  | flags
  deriving DecidableEq, Repr

def beginsName (c : Char) : Bool := c == '_' || (isAlphanumeric c && !c.isDigit)

def continuesName (c : Char) : Bool := isAlphanumeric c || "_.[]".toList.contains c

/-- A name up to a bracket. -/
def readGroupName (s : List Char) : Option (GroupStart × List Char) :=
  let name := s.takeWhile (· != '>')
  match s.drop name.length with
  | [] => none
  | _ :: rest =>
    if name.head?.any beginsName && name.all continuesName then some (.named name, rest) else none

/-- Whether flags are known and none is given twice. Those behind a dash are taken away; letters in
either case are only taken away. -/
def areFlags (flags : List Char) : Bool :=
  flags.all ("imsURux-".toList.contains ·) && flags.eraseDups.length == flags.length &&
    flags.getLast? != some '-' && !(flags.takeWhile (· != '-')).contains 'i'

def readFlags (s : List Char) : Option (GroupStart × List Char) :=
  let flags := s.takeWhile fun c => c != ':' && c != ')'
  match s.drop flags.length with
  | [] => none
  | c :: rest =>
    if !areFlags flags ∨ (c = ')' ∧ flags.isEmpty) then none
    else some (if c = ')' then .flags else .plain, rest)

/-- Reads what follows an opening parenthesis. -/
def readGroupStart : List Char → Option (GroupStart × List Char)
  | '?' :: 'P' :: '<' :: rest => readGroupName rest
  | '?' :: '<' :: rest => readGroupName rest
  | '?' :: rest => readFlags rest
  | rest => some (.plain, rest)

/-! ## Patterns -/

/-- A pattern that is being read. -/
structure Reading where
  /-- The groups that are open. -/
  depth : Nat
  /-- Whether something stands before that can be repeated. -/
  operand : Bool
  names : List (List Char)
  wordBoundary : Bool

namespace Reading

def begin : Reading := ⟨0, false, [], false⟩

def startGroup (state : Reading) : GroupStart → Option Reading
  | .plain => some { state with depth := state.depth + 1, operand := false }
  | .named name =>
    if state.names.contains name then none
    else
      some { state with
        depth := state.depth + 1
        operand := false
        names := name :: state.names }
  | .flags => some { state with operand := false }

/-- Reads what a pattern goes on with. -/
def step (state : Reading) : List Char → Option (Reading × List Char)
  | [] => none
  | '(' :: rest => do
    let (start, rest) ← readGroupStart rest
    (state.startGroup start).map fun state => (state, rest)
  | ')' :: rest =>
    if state.depth = 0 then none
    else some ({ state with depth := state.depth - 1, operand := true }, rest)
  | '|' :: rest => some ({ state with operand := false }, rest)
  | '[' :: rest =>
    (skipClass 0 rest.length (skipClassStart rest)).map fun rest =>
      ({ state with operand := true }, rest)
  | '\\' :: rest => do
    let (escape, rest) ← readEscape rest
    some ({ state with
      operand := true
      wordBoundary := state.wordBoundary || escape == .wordBoundary }, rest)
  | c :: rest =>
    if c = '\x7b' then none
    else if c = '*' ∨ c = '+' ∨ c = '?' then if state.operand then some (state, rest) else none
    else some ({ state with operand := true }, rest)

/-- Reads a pattern to its end, with no more steps than it has characters. -/
def run (state : Reading) : (fuel : Nat) → List Char → Option Reading
  | _, [] => if state.depth = 0 then some state else none
  | 0, _ => none
  | fuel + 1, s =>
    match state.step s with
    | some (state, rest) => run state fuel rest
    | none => none

end Reading

/-- What keeps a text from being a pattern. -/
def fault? (s : List Char) : Option PatternFault :=
  match Reading.begin.run s.length s with
  | none => some .unreadable
  | some state => if state.wordBoundary then some .wordBoundary else none

end Pattern

end ScanClient.Log
