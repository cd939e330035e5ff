import ScanClient.Environment
import ScanClient.Log.Event
import ScanClient.Log.Pattern
import ScanClient.Number.Unsigned
import ScanClient.Text.Alphanumeric
import ScanClient.Text.Blank

/-!
# Log filters

Which events a log shows. A filter is a list of directives between commas. A directive is a level, a
source, or a source with a level; between brackets it may name a span and, in braces, a field. For
an event the directive counts that says the most about it, and where there is none nothing is shown.
-/

namespace ScanClient.Log

/-- What a directive asks of a field. -/
structure FieldMatch where
  name : String
  /-- Whether it asks for a value, which no event is held against. -/
  hasValue : Bool
  deriving DecidableEq, Repr

structure Directive where
  /-- What the source of an event begins with. -/
  target : Option (List Char)
  /-- The span an event is in. There are none, so only what names no span has an effect. -/
  span : Option (List Char)
  /-- What the fields of an event are. -/
  fields : List FieldMatch
  /-- The greatest rank of a level that is shown. -/
  threshold : Nat
  deriving DecidableEq, Repr

abbrev Filter := List Directive

/-- Why a text is no directive. -/
inductive DirectiveFault where
  | malformed
  | unknownLevel
  | badPattern (fault : PatternFault)
  deriving DecidableEq, Repr

def PatternFault.message : PatternFault → String
  | .unreadable => "error building NFA"
  | .wordBoundary =>
    "unsupported regex feature for DFAs: cannot build DFAs for regexes with Unicode word " ++
      "boundaries; switch to ASCII word boundaries, or heuristically enable Unicode word " ++
      "boundaries or use a different regex engine"

def DirectiveFault.message : DirectiveFault → String
  | .malformed => "invalid filter directive"
  | .unknownLevel =>
    "error parsing level filter: expected one of \"off\", \"error\", \"warn\", \"info\", " ++
      "\"debug\", \"trace\", or a number 0-5"
  | .badPattern fault => "invalid field filter: " ++ fault.message

def levels : List Level := [.error, .warn, .info, .debug, .trace]

/-- The rank a level is spelled by: its name in any case, its number, or nothing for errors. -/
def parseThreshold (s : List Char) : Option Nat :=
  match parseUnsigned maxUInt64 s with
  | some n => if n ≤ Level.trace.rank then some n else none
  | none =>
    let name := String.ofList (s.map Char.toUpper)
    if name.isEmpty then some Level.error.rank
    else if name = "OFF" then some 0
    else (levels.find? fun level => level.name = name).map Level.rank

/-- What a source may begin with. -/
def beginsTarget (c : Char) : Bool :=
  c == '-' || c == ':' || c == '_' || Text.isAlphanumeric c

/-- Whether what stands behind a number's digits is an exponent, or nothing. -/
def isExponent : List Char → Bool
  | [] => true
  | e :: rest =>
    let digits := if rest.head?.any ("+-".toList.contains ·) then rest.drop 1 else rest
    (e == 'e' || e == 'E') && !digits.isEmpty && digits.all Char.isDigit

/-- Whether a text is a number without a sign. -/
def isNumeral (s : List Char) : Bool :=
  let whole := s.takeWhile Char.isDigit
  let rest := s.drop whole.length
  let places := if rest.head? = some '.' then (rest.drop 1).takeWhile Char.isDigit else []
  let rest := if rest.head? = some '.' then rest.drop (places.length + 1) else rest
  ["inf", "infinity", "nan"].contains (String.ofList (s.map Char.toLower)) ||
    (!(whole ++ places).isEmpty && isExponent rest)

/-- Whether a text is a number with a plus sign. All other numbers are patterns too. -/
def isSignedNumber : List Char → Bool
  | '+' :: rest => isNumeral rest
  | _ => false

/-- A field by its name, or with its value behind an equals sign. -/
def FieldMatch.parse (s : List Char) : Except DirectiveFault FieldMatch :=
  match s.splitOn '=' with
  | name :: value :: _ =>
    match if isSignedNumber value then none else Pattern.fault? value with
    | some fault => .error (.badPattern fault)
    | none => .ok ⟨String.ofList name, true⟩
  | parts => .ok ⟨String.ofList parts.flatten, false⟩

namespace Directive

/-- A directive about every event. -/
def everything : Directive := ⟨none, none, [], Level.trace.rank⟩

/-! ## Reading -/

/-- What the next character belongs to, and where that began. -/
inductive Stage where
  | start
  | target
  | span (first : Nat)
  | field (first : Nat)
  | behindField
  | behindSpan
  | level (first : Nat)
  deriving DecidableEq, Repr

def slice (s : List Char) (first last : Nat) : List Char := (s.take last).drop first

/-- Reads the character at a position. The parts of the directive are taken from the text `s`. -/
def step (s : List Char) (state : Stage × Directive) (item : Char × Nat) :
    Except DirectiveFault (Stage × Directive) :=
  let (stage, d) := state
  let (c, i) := item
  match stage with
  | .start =>
    if c = '[' then .ok (.span (i + 1), d)
    else if beginsTarget c then .ok (.target, d)
    else .error .malformed
  | .target =>
    if c = '=' then .ok (.level (i + 1), { d with target := some (s.take i) })
    else if c = '[' then .ok (.span (i + 1), { d with target := some (s.take i) })
    else .ok state
  | .span first =>
    let name := slice s first i
    if c = ']' then .ok (.behindSpan, { d with span := some name })
    else if c = '\x7b' then
      .ok (.field (i + 1), { d with span := if name.isEmpty then none else some name })
    else .ok state
  | .field first =>
    let text := slice s first i
    if c != '\x7d' then .ok state
    else if text.isEmpty then .error .malformed
    else (FieldMatch.parse text).map fun field => (.behindField, { d with fields := [field] })
  | .behindField => if c = ']' then .ok (.behindSpan, d) else .error .malformed
  | .behindSpan => if c = '=' then .ok (.level (i + 1), d) else .error .malformed
  | .level _ => .ok state

/-- Ends a directive. Where it has no level it shows everything. -/
def finish (s : List Char) : Stage × Directive → Except DirectiveFault Directive
  | (.target, d) =>
    match parseThreshold s with
    | some threshold => .ok { d with threshold }
    | none => .ok { d with target := some s }
  | (.level first, d) =>
    let text := s.drop first
    if text.isEmpty then .ok d
    else
      match parseThreshold text with
      | some threshold => .ok { d with threshold }
      | none => .error .unknownLevel
  | (.behindSpan, d) => .ok d
  | _ => .error .malformed

/-- Reads a directive. Blanks around it are passed over when its parts are measured, but not when
they are taken, so they shift the parts. -/
def parse (s : List Char) : Except DirectiveFault Directive := do
  let state ← (Text.trimChars s).zipIdx.foldlM (step s) (.start, everything)
  finish s state

/-! ## Effect -/

/-- Whether a directive can have an effect, there being no spans. -/
def isEffective (d : Directive) : Bool := d.span.isNone && !d.fields.any (·.hasValue)

def fieldNames (d : Directive) : List String := d.fields.map (·.name)

/-- Whether a directive is about an event. -/
def isAbout (d : Directive) (entry : Entry) : Bool :=
  (d.target.all fun target => target.isPrefixOf entry.source.target.toList) &&
    d.fieldNames.all (entry.fieldNames.contains ·)

/-- How much a target says: nothing where there is none. -/
def targetRank (d : Directive) : Nat := (d.target.map fun target => target.length + 1).getD 0

/-- Whether a directive says less than another that is about the same event. -/
def saysLess (d other : Directive) : Bool :=
  if d.targetRank ≠ other.targetRank then d.targetRank < other.targetRank
  else if d.fields.length ≠ other.fields.length then d.fields.length < other.fields.length
  else d.fieldNames < other.fieldNames

end Directive

namespace Filter

def pieces (s : String) : List (List Char) :=
  (s.toList.splitOn ',').filter fun piece => !piece.isEmpty

/-- The filter a text spells, if all its directives can be read. -/
def parse? (s : String) : Option Filter := ((pieces s).mapM Directive.parse).toOption

/-- What a text spells, with a complaint for each directive that cannot be read. -/
def parseLenient (s : String) : Filter × List String :=
  let read := (pieces s).map fun piece => (piece, Directive.parse piece)
  (read.filterMap fun (_, result) => result.toOption,
    read.filterMap fun (piece, result) =>
      match result with
      | .ok _ => none
      | .error fault =>
        some ("ignoring \x60" ++ String.ofList piece ++ "\x60: " ++ fault.message))

def standard : String := "warn"

/-- The filter of an environment, and what there is to complain about. -/
def ofEnvironment (env : Environment) : Filter × List String :=
  match (env.text? "RUST_LOG").bind parse? with
  | some filter => (filter, [])
  | none => parseLenient ((env.text? "CYBERGUARD_LOG").getD standard)

/-- The directive that counts for an event; of two that say as much, the later one. -/
def decisive (filter : Filter) (entry : Entry) : Option Directive :=
  (filter.filter fun d => d.isEffective && d.isAbout entry).foldl
    (fun best d => if best.any d.saysLess then best else some d)
    none

def admits (filter : Filter) (entry : Entry) : Bool :=
  match filter.decisive entry with
  | some d => entry.level.rank ≤ d.threshold
  | none => false

end Filter

end ScanClient.Log
