import ScanClient.Json.Value
import ScanClient.Text.Utf8

/-!
# Reading faults

Why a JSON text could not be read, and where. A reader knows what it has not consumed, so a fault
keeps that; the line and the column follow from it and from the whole text.
-/

namespace ScanClient.Json

inductive Cause where
  | endInValue
  | endInList
  | endInObject
  | endInString
  | noValue
  | misspeltWord
  | noColon
  | noCommaInList
  | noCommaInObject
  | trailingComma
  | trailingCharacters
  | keyNotString
  | badNumber
  | numberTooLarge
  | badEscape
  | controlCharacter
  | loneSurrogate
  | endOfEscape
  | tooDeep
  | wrongType (found : Value) (expected : String)
  | wrongLength (length : Nat) (expected : String)
  | duplicateField (name : String)
  | missingField (name : String)
  | unreadable (reason : String)
  deriving Inhabited

def Cause.message : Cause → String
  | .endInValue => "EOF while parsing a value"
  | .endInList => "EOF while parsing a list"
  | .endInObject => "EOF while parsing an object"
  | .endInString => "EOF while parsing a string"
  | .noValue => "expected value"
  | .misspeltWord => "expected ident"
  | .noColon => "expected \x60:\x60"
  | .noCommaInList => "expected \x60,\x60 or \x60]\x60"
  | .noCommaInObject => "expected \x60,\x60 or \x60\x7d\x60"
  | .trailingComma => "trailing comma"
  | .trailingCharacters => "trailing characters"
  | .keyNotString => "key must be a string"
  | .badNumber => "invalid number"
  | .numberTooLarge => "number out of range"
  | .badEscape => "invalid escape"
  | .controlCharacter => "control character (\\u0000-\\u001F) found while parsing a string"
  | .loneSurrogate => "lone leading surrogate in hex escape"
  | .endOfEscape => "unexpected end of hex escape"
  | .tooDeep => "recursion limit exceeded"
  | .wrongType found expected => "invalid type: " ++ found.describe ++ ", expected " ++ expected
  | .wrongLength length expected =>
    "invalid length " ++ toString length ++ ", expected " ++ expected
  | .duplicateField name => "duplicate field \x60" ++ name ++ "\x60"
  | .missingField name => "missing field \x60" ++ name ++ "\x60"
  | .unreadable reason => reason

/-- A cause with the text that was left when it was found. Some causes count bytes of that text as
read already. -/
structure Fault where
  cause : Cause
  left : List Char
  beyond : Nat
  deriving Inhabited

namespace Fault

/-- A fault in what has been read. -/
def behind (cause : Cause) (left : List Char) : Fault := ⟨cause, left, 0⟩

/-- A fault of the next byte, which counts as read. -/
def ahead (cause : Cause) (left : List Char) : Fault := ⟨cause, left, 1⟩

end Fault

/-- A fault with its place: lines count from one, columns are the bytes since the last line feed. -/
structure ReadError where
  cause : Cause
  line : Nat
  column : Nat
  deriving Inhabited

def Fault.locate (text : List Char) (fault : Fault) : ReadError :=
  let seen := (Text.Utf8.encode text).take
    (Text.Utf8.size text - Text.Utf8.size fault.left + fault.beyond)
  { cause := fault.cause
    line := 1 + seen.count 0x0A
    column := (seen.reverse.takeWhile (· != 0x0A)).length }

def ReadError.message (e : ReadError) : String :=
  e.cause.message ++ " at line " ++ toString e.line ++ " column " ++ toString e.column

end ScanClient.Json
