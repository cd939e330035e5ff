import ScanClient.Json.Value
import ScanClient.Text.Hex

/-!
# Writing values

On one line without blanks, or spread over lines and indented by two spaces. Members are written in
their order. Only quotes, backslashes and control characters are escaped.
-/

namespace ScanClient.Json

def escapeChar (c : Char) : List Char :=
  if c = '"' then ['\\', '"']
  else if c = '\\' then ['\\', '\\']
  else if c = '\x08' then ['\\', 'b']
  else if c = '\x0C' then ['\\', 'f']
  else if c = '\n' then ['\\', 'n']
  else if c = '\r' then ['\\', 'r']
  else if c = '\t' then ['\\', 't']
  else if c < ' ' then
    ['\\', 'u', '0', '0', Text.lowerHexChar (c.toNat / 16), Text.lowerHexChar (c.toNat % 16)]
  else [c]

def textChars (s : String) : List Char := '"' :: (s.toList.flatMap escapeChar ++ ['"'])

def scalarChars : Value → List Char
  | .null => "null".toList
  | .boolean b => (if b then "true" else "false").toList
  | .number n => n.text.toList
  | .string s => textChars s
  | .array _ => []
  | .object _ => []

mutual

def compactChars : Value → List Char
  | .array items => '[' :: (compactItems true items ++ [']'])
  | .object members => '\x7b' :: (compactMembers true members ++ ['\x7d'])
  | v => scalarChars v

def compactItems (first : Bool) : List Value → List Char
  | [] => []
  | v :: rest => (if first then [] else [',']) ++ compactChars v ++ compactItems false rest

def compactMembers (first : Bool) : List (String × Value) → List Char
  | [] => []
  | (key, v) :: rest =>
    (if first then [] else [',']) ++ textChars key ++ ':' :: compactChars v ++
      compactMembers false rest

end

def lineBreak (depth : Nat) : List Char := '\n' :: List.replicate (2 * depth) ' '

mutual

/-- A value whose lines are indented for `depth`. -/
def prettyChars (depth : Nat) : Value → List Char
  | .array [] => ['[', ']']
  | .array items => '[' :: (prettyItems depth true items ++ lineBreak depth ++ [']'])
  | .object [] => ['\x7b', '\x7d']
  | .object members =>
    '\x7b' :: (prettyMembers depth true members ++ lineBreak depth ++ ['\x7d'])
  | v => scalarChars v

def prettyItems (depth : Nat) (first : Bool) : List Value → List Char
  | [] => []
  | v :: rest =>
    (if first then [] else [',']) ++ lineBreak (depth + 1) ++ prettyChars (depth + 1) v ++
      prettyItems depth false rest

def prettyMembers (depth : Nat) (first : Bool) : List (String × Value) → List Char
  | [] => []
  | (key, v) :: rest =>
    (if first then [] else [',']) ++ lineBreak (depth + 1) ++ textChars key ++
      ':' :: ' ' :: prettyChars (depth + 1) v ++ prettyMembers depth false rest

end

mutual

/-- The value with the members of every object sorted by key. -/
def Value.sorted : Value → Value
  | .array items => .array (sortedItems items)
  | .object members => .object (sortMembers (sortedMembers members))
  | v => v

def sortedItems : List Value → List Value
  | [] => []
  | v :: rest => v.sorted :: sortedItems rest

def sortedMembers : List (String × Value) → List (String × Value)
  | [] => []
  | (key, v) :: rest => (key, v.sorted) :: sortedMembers rest

end

def Value.compact (v : Value) : String := String.ofList (compactChars v)

def Value.pretty (v : Value) : String := String.ofList (prettyChars 0 v)

end ScanClient.Json
