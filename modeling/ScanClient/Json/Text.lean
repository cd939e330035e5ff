import ScanClient.Json.Reading
import ScanClient.Text.Hex

/-!
# Reading strings

The text between the quotes with its escapes resolved. Escapes above U+FFFF come as two surrogates.
-/

namespace ScanClient.Json

def shortEscape : Char → Option Char
  | '"' => some '"'
  | '\\' => some '\\'
  | '/' => some '/'
  | 'b' => some '\x08'
  | 'f' => some '\x0C'
  | 'n' => some '\n'
  | 'r' => some '\r'
  | 't' => some '\t'
  | _ => none

def hexValue (digits : List Char) : Option Nat :=
  (digits.mapM Text.hexDigitValue).map fun values => values.foldl (fun n d => n * 16 + d) 0

/-- The four digits of an escape, taken as four bytes, whatever characters those belong to. -/
def readHex : Reader Nat
  | a :: b :: c :: d :: rest =>
    match hexValue [a, b, c, d] with
    | some n => .ok ⟨n, rest, by simp only [List.length_cons]; omega⟩
    | none => .error ⟨.badEscape, a :: b :: c :: d :: rest, 4⟩
  | s =>
    .error (if Text.Utf8.size s < 4 then .behind .endInString [] else ⟨.badEscape, s, 4⟩)

def isLeading (n : Nat) : Bool := 0xD800 ≤ n && n ≤ 0xDBFF

def isTrailing (n : Nat) : Bool := 0xDC00 ≤ n && n ≤ 0xDFFF

def pairSurrogates (leading trailing : Nat) : Char :=
  Char.ofNat ((leading - 0xD800) * 0x400 + (trailing - 0xDC00) + 0x10000)

/-- The trailing half of a pair, from its backslash on. -/
def readTrailing (leading : Nat) : Reader Char
  | [] => .error (.behind .endInString [])
  | '\\' :: [] => .error (.behind .endInString [])
  | '\\' :: 'u' :: rest =>
    match readHex rest with
    | .error e => .error e
    | .ok r =>
      if isTrailing r.value then
        .ok ⟨pairSurrogates leading r.value, r.rest, by
          have := r.shorter; simp only [List.length_cons]; omega⟩
      else .error (.behind .loneSurrogate r.rest)
  | '\\' :: c :: rest => .error (.ahead .endOfEscape (c :: rest))
  | s => .error (.ahead .endOfEscape s)

/-- The character of a numbered escape, from its digits on. -/
def readNumbered : Reader Char := fun s =>
  match readHex s with
  | .error e => .error e
  | .ok r =>
    if isTrailing r.value then .error (.behind .loneSurrogate r.rest)
    else if isLeading r.value then
      (readTrailing r.value r.rest).map r.follow
    else .ok ⟨Char.ofNat r.value, r.rest, r.shorter⟩

/-- The character of an escape, from behind the backslash on. -/
def readEscape : Reader Char
  | [] => .error (.behind .endInString [])
  | c :: rest =>
    match shortEscape c with
    | some plain => .ok (.single plain c rest)
    | none =>
      if c = 'u' then behindChar readNumbered c rest else .error (.ahead .badEscape (c :: rest))

/-- Reads on to the closing quote, with the characters read so far in reverse. -/
def readTextFrom (start : List Char) (read : List Char) (s : List Char)
    (h : s.length ≤ start.length) : Except Fault (Read String start) :=
  match s with
  | [] => .error (.behind .endInString [])
  | c :: rest =>
    have hrest : rest.length < start.length := h
    if c = '"' then .ok ⟨String.ofList read.reverse, rest, hrest⟩
    else if c = '\\' then
      match readEscape rest with
      | .error e => .error e
      | .ok r =>
        readTextFrom start (r.value :: read) r.rest
          (Nat.le_of_lt (Nat.lt_trans r.shorter hrest))
    else if c < ' ' then .error (.behind .controlCharacter rest)
    else readTextFrom start (c :: read) rest (Nat.le_of_lt hrest)
termination_by s.length
decreasing_by
  · have := r.shorter; simp only [List.length_cons]; omega
  · simp only [List.length_cons]; omega

/-- The string whose opening quote has been read. -/
def readText : Reader String := fun s => readTextFrom s [] s (length_le_self s)

end ScanClient.Json
