import ScanClient.Http.Domain
import ScanClient.Http.Fault
import ScanClient.Http.Percent

/-!
# Hosts

The host of an address is a name or a number. Numbers have many forms and are written in one.
-/

namespace ScanClient.Http

open Text

inductive Host where
  | name (text : String)
  | ipv4 (address : Nat)
  | ipv6 (pieces : List Nat)
  deriving DecidableEq, Repr

def numberOf (radix : Nat) (digits : List Char) : Option Nat :=
  digits.foldlM (fun n c => do
    let d ← hexDigitValue c
    if d < radix then some (n * radix + d) else none) 0

/-- A part of a number with dots: hexadecimal, octal or decimal by its beginning. -/
def ipv4Part : List Char → Option Nat
  | [] => none
  | '0' :: 'x' :: digits => numberOf 16 digits
  | '0' :: 'X' :: digits => numberOf 16 digits
  | '0' :: d :: digits => numberOf 8 (d :: digits)
  | digits => numberOf 10 digits

/-- The parts between dots. One dot at the end does not count. -/
def dottedParts (s : List Char) : List (List Char) :=
  let parts := s.splitOn '.'
  if parts.getLast? = some [] ∧ 1 < parts.length then parts.dropLast else parts

def endsInNumber (s : List Char) : Bool :=
  match (dottedParts s).getLast? with
  | none => false
  | some [] => false
  | some part => part.all Char.isDigit || (ipv4Part part).isSome

/-- All parts but the last are a byte each; the last fills the bytes that are left. -/
def ipv4Address (parts : List Nat) : Option Nat :=
  let before := parts.dropLast
  match parts.getLast? with
  | none => none
  | some last =>
    if 4 < parts.length ∨ before.any (255 < ·) ∨ Nat.pow 256 (5 - parts.length) ≤ last then none
    else
      some (before.zipIdx.foldl (fun n (part, i) => n + part * Nat.pow 256 (3 - i)) last)

def parseIpv4 (s : List Char) : Except UrlFault Host :=
  match (dottedParts s).mapM ipv4Part >>= ipv4Address with
  | some address => .ok (.ipv4 address)
  | none => .error .invalidIpv4

/-- A group of at most four digits. -/
def ipv6Group (s : List Char) : Option Nat :=
  if s.isEmpty ∨ 4 < s.length then none else numberOf 16 s

/-- Four decimal bytes with dots, as two groups. -/
def ipv6Tail (s : List Char) : Option (List Nat) := do
  let byte (part : List Char) : Option Nat :=
    if part.isEmpty ∨ (1 < part.length ∧ part.head? = some '0') then none
    else (numberOf 10 part).filter (· ≤ 255)
  match ← (s.splitOn '.').mapM byte with
  | [a, b, c, d] => some [a * 256 + b, c * 256 + d]
  | _ => none

/-- Groups between colons; the last may be four decimal bytes. -/
def ipv6Groups (s : List Char) : Option (List Nat) :=
  if s.isEmpty then some []
  else
    let parts := s.splitOn ':'
    let last := (parts.getLast?).getD []
    if last.contains '.' then do
      let groups ← parts.dropLast.mapM ipv6Group
      let tail ← ipv6Tail last
      some (groups ++ tail)
    else parts.mapM ipv6Group

/-- What stands before and behind the first double colon. -/
def splitDoubleColon : List Char → Option (List Char × List Char)
  | [] => none
  | ':' :: ':' :: rest => some ([], rest)
  | c :: rest => (splitDoubleColon rest).map fun (before, behind) => (c :: before, behind)

def parseIpv6 (s : List Char) : Except UrlFault Host :=
  let pieces : Option (List Nat) :=
    match splitDoubleColon s with
    | none => (ipv6Groups s).filter (·.length == 8)
    | some (before, behind) => do
      if before.contains '.' then none
      let left ← ipv6Groups before
      let right ← ipv6Groups behind
      if left.length + right.length ≤ 7 then
        some (left ++ List.replicate (8 - left.length - right.length) 0 ++ right)
      else none
  match pieces with
  | some pieces => .ok (.ipv6 pieces)
  | none => .error .invalidIpv6

/-- What no name of a host may contain. -/
def isForbidden (c : Char) : Bool :=
  c ≤ ' ' || c == '\x7F' || "#/:<>?@[\\]^|%".toList.contains c

/-- The host of an address of the web. -/
def parseHost (s : List Char) : Except UrlFault Host :=
  match s with
  | '[' :: rest => if rest.getLast? = some ']' then parseIpv6 rest.dropLast else .error .invalidIpv6
  | _ =>
    match asciiDomain (Text.Utf8.decodeLossy (percentDecode s)).toList with
    | none => .error .invalidDomain
    | some name =>
      if name.isEmpty then .error .emptyHost
      else if name.any isForbidden then .error .invalidDomain
      else if endsInNumber name then parseIpv4 name
      else .ok (.name (String.ofList name))

/-- What no host of any address may contain. -/
def isForbiddenAnywhere (c : Char) : Bool :=
  c == '\x00' || c == '\t' || c == '\n' || c == '\r' || " #/:<>?@[\\]^|".toList.contains c

def isControl (c : Char) : Bool := c < ' ' || '\x7E' < c

/-- The host of an address of another kind, whose names are kept as they are. -/
def parseOtherHost (s : List Char) : Except UrlFault Host :=
  match s with
  | '[' :: rest => if rest.getLast? = some ']' then parseIpv6 rest.dropLast else .error .invalidIpv6
  | _ =>
    if s.any isForbiddenAnywhere then .error .invalidDomainCharacter
    else .ok (.name (String.ofList (percentEncode (fun c => !isControl c) s)))

def ipv4Text (address : Nat) : String :=
  ".".intercalate ([3, 2, 1, 0].map fun i => toString (address / Nat.pow 256 i % 256))

def groupText (n : Nat) : String := String.ofList (Nat.toDigits 16 n)

/-- The position and the length of the first longest run of zeros. -/
def longestZeros (pieces : List Nat) : Nat × Nat :=
  (List.range pieces.length).foldl
    (fun best i =>
      let n := ((pieces.drop i).takeWhile (· == 0)).length
      if best.2 < n then (i, n) else best)
    (0, 0)

def ipv6Text (pieces : List Nat) : String :=
  let (i, n) := longestZeros pieces
  let join (groups : List Nat) : String := ":".intercalate (groups.map groupText)
  if n < 2 then join pieces else join (pieces.take i) ++ "::" ++ join (pieces.drop (i + n))

def Host.text : Host → String
  | .name text => text
  | .ipv4 address => ipv4Text address
  | .ipv6 pieces => "[" ++ ipv6Text pieces ++ "]"

end ScanClient.Http
