import ScanClient.Json.Reader

/-!
# Reading records

A record is read from an object, or from a list that holds its fields in order. Members no field
asks for are skipped. A field may be given only once, whatever its value.
-/

namespace ScanClient.Json

/-- The fault of a value, by its first character, of which another kind was expected. -/
def wrongType (expected : String) (c : Char) (rest : List Char) : Fault :=
  if c = '[' then .behind (.wrongType (.array []) expected) (c :: rest)
  else if c = '\x7b' then .behind (.wrongType (.object []) expected) (c :: rest)
  else
    match readScalar c rest with
    | .error fault => fault
    | .ok r => .behind (.wrongType r.value expected) r.rest

def readString (expected : String) : Reader String :=
  afterBlank .endInValue fun c rest =>
    if c = '"' then behindChar readText c rest else .error (wrongType expected c rest)

def readBoolean : Reader Bool :=
  afterBlank .endInValue fun c rest =>
    if c = 't' then readWord "rue" true c rest
    else if c = 'f' then readWord "alse" false c rest
    else .error (wrongType "a boolean" c rest)

def readDouble : Reader Double :=
  afterBlank .endInValue fun c rest =>
    if c = '-' ∨ c.isDigit then readNumber.map Number.toDouble (c :: rest)
    else .error (wrongType "f64" c rest)

def readNull : Reader Unit :=
  afterBlank .endInValue fun c rest =>
    if c = 'n' then readWord "ull" () c rest else .error (wrongType "unit" c rest)

/-- Null is the absence of a value. -/
def readOptional (read : Reader α) : Reader (Option α) :=
  afterBlank .endInValue fun c rest =>
    if c = 'n' then readWord "ull" none c rest else read.map some (c :: rest)

/-- A field of a record whose fields are collected in a draft. -/
structure RecordField (draft : Type) where
  name : String
  given : draft → Bool
  read : draft → Reader draft

/-- A field by what reads it, where the draft keeps it and how the draft is changed. -/
def RecordField.of (name : String) (read : Reader α) (get : draft → Option α)
    (set : draft → α → draft) : RecordField draft where
  name := name
  given := fun d => (get d).isSome
  read := fun d => read.map (set d)

/-- How a record is read. -/
structure Shape (draft α : Type) where
  /-- What a message calls the record. -/
  expected : String
  fields : List (RecordField draft)
  empty : draft
  /-- The record of an object's members. -/
  ofMembers : draft → Except Cause α
  /-- The record of a list with this many elements. -/
  ofElements : Nat → draft → Except Cause α

/-- What is left where a field was given twice: blanks and a closing bracket count as read. -/
def behindKey (s : List Char) : List Char :=
  match skipBlank s with
  | '\x7d' :: rest => rest
  | left => left

def readMember (fields : List (RecordField draft)) (d : draft) (key : String) : Reader draft :=
  fun s =>
  match fields.find? (·.name == key) with
  | none => afterColon (skipValue.map fun _ => d) s
  | some field =>
    if field.given d then .error (.behind (.duplicateField key) (behindKey s))
    else afterColon (field.read d) s

/-- The bracket that closes a list of which nothing more is wanted. -/
def readListEnd : Reader Unit :=
  afterBlank .endInList fun c rest =>
    if c = ']' then .ok (.single () c rest)
    else if c = ',' then
      match skipBlank rest with
      | ']' :: more => .error (.ahead .trailingComma (']' :: more))
      | left => .error (.ahead .trailingCharacters left)
    else .error (.ahead .trailingCharacters (c :: rest))

/-- Reads fields in order until they or the elements end, and gives the number of elements read. -/
def readRow (first : Bool) (count : Nat) (d : draft) :
    List (RecordField draft) → Reader (Nat × draft)
  | [] => readListEnd.map fun _ => (count, d)
  | field :: fields => fun s =>
    match nextElement first s with
    | .error e => .error e
    | .ok (.done rest hrest) => .ok ⟨(count, d), rest, hrest⟩
    | .ok (.item t ht) =>
      match field.read d t with
      | .error e => .error e
      | .ok r =>
        (readRow false (count + 1) r.value fields r.rest).map
          (·.within (Nat.le_trans (Nat.le_of_lt r.shorter) ht))

/-- Makes something of what was read, which may be refused behind it. -/
def finish (make : α → Except Cause β) (read : Reader α) : Reader β := fun s =>
  match read s with
  | .error e => .error e
  | .ok r =>
    match make r.value with
    | .error cause => .error (.behind cause r.rest)
    | .ok b => .ok ⟨b, r.rest, r.shorter⟩

def readRecord (shape : Shape draft α) : Reader α :=
  afterBlank .endInValue fun c rest =>
    if c = '\x7b' then
      behindChar (finish shape.ofMembers (readMembers (readMember shape.fields) shape.empty)) c rest
    else if c = '[' then
      behindChar (finish (fun (count, d) => shape.ofElements count d)
        (readRow true 0 shape.empty shape.fields)) c rest
    else .error (wrongType shape.expected c rest)

end ScanClient.Json
