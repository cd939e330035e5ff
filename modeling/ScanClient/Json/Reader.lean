import ScanClient.Json.Skip

/-!
# Reading values

Lists and objects are read item by item, whatever their items are read as. How deep brackets may
nest is a number given to the reader, so a value is read by recursion on it.
-/

namespace ScanClient.Json

/-- What is found where an item may follow: the text at the item, or the text behind the closing
bracket. -/
inductive Next (s : List Char) where
  | item (rest : List Char) (notLonger : rest.length ≤ s.length)
  | done (rest : List Char) (shorter : rest.length < s.length)

/-- Looks for an element of a list. A comma goes before each but the first. -/
def nextElement (first : Bool) (s : List Char) : Except Fault (Next s) :=
  match h : skipBlank s with
  | [] => .error (.ahead .endInList [])
  | c :: rest =>
    have hrest : rest.length < s.length := length_lt_of_skipBlank h
    if c = ']' then .ok (.done rest hrest)
    else if first then .ok (.item (c :: rest) hrest)
    else if c = ',' then
      match skipBlank rest with
      | [] => .error (.ahead .endInValue [])
      | ']' :: more => .error (.ahead .trailingComma (']' :: more))
      | _ => .ok (.item rest (length_le_of_lt hrest))
    else .error (.ahead .noCommaInList (c :: rest))

/-- Looks for a member of an object, up to behind the opening quote of its key. -/
def nextMember (first : Bool) (s : List Char) : Except Fault (Next s) :=
  match h : skipBlank s with
  | [] => .error (.ahead .endInObject [])
  | c :: rest =>
    have hrest : rest.length < s.length := length_lt_of_skipBlank h
    if c = '\x7d' then .ok (.done rest hrest)
    else if first then
      if c = '"' then .ok (.item rest (length_le_of_lt hrest))
      else .error (.ahead .keyNotString (c :: rest))
    else if c = ',' then
      match hmore : skipBlank rest with
      | [] => .error (.ahead .endInValue [])
      | d :: more =>
        if d = '"' then
          have hshorter : more.length < s.length :=
            Nat.lt_trans (length_lt_of_skipBlank hmore) hrest
          .ok (.item more (length_le_of_lt hshorter))
        else .error (.ahead (if d = '\x7d' then .trailingComma else .keyNotString) (d :: more))
    else .error (.ahead .noCommaInObject (c :: rest))

/-- Reads the elements of a list, with those read so far in reverse. -/
def readElementsFrom (element : Reader α) (start : List Char) (first : Bool) (read : List α)
    (s : List Char) (h : s.length ≤ start.length) : Except Fault (Read (List α) start) :=
  match nextElement first s with
  | .error e => .error e
  | .ok (.done rest hrest) => .ok ⟨read.reverse, rest, Nat.lt_of_lt_of_le hrest h⟩
  | .ok (.item t ht) =>
    match element t with
    | .error e => .error e
    | .ok r =>
      readElementsFrom element start false (r.value :: read) r.rest
        (Nat.le_trans (Nat.le_of_lt r.shorter) (Nat.le_trans ht h))
termination_by s.length
decreasing_by exact Nat.lt_of_lt_of_le r.shorter ht

/-- The elements of a list whose opening bracket has been read. -/
def readElements (element : Reader α) : Reader (List α) := fun s =>
  readElementsFrom element s true [] s (length_le_self s)

/-- Reads the members of an object into a state. `member` is given a key and reads on from there. -/
def readMembersFrom (member : σ → String → Reader σ) (start : List Char) (first : Bool)
    (state : σ) (s : List Char) (h : s.length ≤ start.length) : Except Fault (Read σ start) :=
  match nextMember first s with
  | .error e => .error e
  | .ok (.done rest hrest) => .ok ⟨state, rest, Nat.lt_of_lt_of_le hrest h⟩
  | .ok (.item t ht) =>
    match readText t with
    | .error e => .error e
    | .ok key =>
      match member state key.value key.rest with
      | .error e => .error e
      | .ok r =>
        readMembersFrom member start false r.value r.rest
          (Nat.le_trans (Nat.le_of_lt (Nat.lt_trans r.shorter key.shorter)) (Nat.le_trans ht h))
termination_by s.length
decreasing_by exact Nat.lt_of_lt_of_le (Nat.lt_trans r.shorter key.shorter) ht

/-- The members of an object whose opening bracket has been read. -/
def readMembers (member : σ → String → Reader σ) (empty : σ) : Reader σ := fun s =>
  readMembersFrom member s true empty s (length_le_self s)

/-- Reads what stands behind a colon. -/
def afterColon (read : Reader α) : Reader α := fun s =>
  match readColon s with
  | .error e => .error e
  | .ok colon => (read colon.rest).map colon.follow

/-- A value without brackets, by its first character. -/
def readScalar (c : Char) (rest : List Char) : Except Fault (Read Value (c :: rest)) :=
  if c = 'n' then readWord "ull" .null c rest
  else if c = 't' then readWord "rue" (.boolean true) c rest
  else if c = 'f' then readWord "alse" (.boolean false) c rest
  else if c = '"' then behindChar (readText.map .string) c rest
  else if c = '-' ∨ c.isDigit then readNumber.map .number (c :: rest)
  else .error (.ahead .noValue (c :: rest))

/-- Reads a value, given how the values inside its brackets are read, if brackets may open. -/
def readValueWith (inside : Option (Reader Value)) : Reader Value :=
  afterBlank .endInValue fun c rest =>
    if c = '[' ∨ c = '\x7b' then
      match inside with
      | none => .error (.ahead .tooDeep (c :: rest))
      | some value =>
        if c = '[' then behindChar ((readElements value).map .array) c rest
        else
          let member (state : List (String × Value)) (key : String) :=
            (afterColon value).map fun v => insertMember key v state
          behindChar ((readMembers member []).map .object) c rest
    else readScalar c rest

/-- Reads a value in which brackets nest at most `room` deep. -/
def readValue : Nat → Reader Value
  | 0 => readValueWith none
  | room + 1 => readValueWith (some (readValue room))

/-- How deep brackets may nest. -/
def maxDepth : Nat := 127

/-- Reads a whole text. Nothing but blanks may follow what was read. -/
def readAll (read : Reader α) (text : String) : Except ReadError α :=
  let s := text.toList
  match read s with
  | .error fault => .error (fault.locate s)
  | .ok r =>
    match skipBlank r.rest with
    | [] => .ok r.value
    | left => .error ((Fault.ahead .trailingCharacters left).locate s)

/-- The value of a JSON text. -/
def parse (text : String) : Except ReadError Value := readAll (readValue maxDepth) text

end ScanClient.Json
