import ScanClient.Json.Fault

/-!
# Readers

A reader takes the text at hand and gives what it read with the text that is left, which is always
shorter. That is why reading ends.
-/

namespace ScanClient.Json

/-- What was read from the beginning of `s`, and what is left of it. -/
structure Read (α : Type) (s : List Char) where
  value : α
  rest : List Char
  shorter : rest.length < s.length

abbrev Reader (α : Type) := (s : List Char) → Except Fault (Read α s)

/-- A text that is left of `s` after something that may be empty. -/
structure Tail (s : List Char) where
  rest : List Char
  notLonger : rest.length ≤ s.length

theorem length_le_self (s : List Char) : s.length ≤ s.length := Nat.le_refl _

theorem length_lt_cons (c : Char) (rest : List Char) : rest.length < (c :: rest).length :=
  Nat.lt_succ_self _

theorem length_le_of_lt {s t : List Char} (h : t.length < s.length) : t.length ≤ s.length :=
  Nat.le_of_lt h

/-- What one character stands for. -/
def Read.single (value : α) (c : Char) (rest : List Char) : Read α (c :: rest) :=
  ⟨value, rest, length_lt_cons c rest⟩

/-- What is left of a text of which nothing was read. -/
def Tail.whole (s : List Char) : Tail s := ⟨s, length_le_self s⟩

/-- What was read from a later part of a text was read from the text. -/
def Read.within {t s : List Char} (h : t.length ≤ s.length) (r : Read α t) : Read α s :=
  ⟨r.value, r.rest, Nat.lt_of_lt_of_le r.shorter h⟩

/-- What was read from a text was read from the text behind a character. -/
def Read.behind {rest : List Char} (r : Read α rest) (c : Char) : Read α (c :: rest) :=
  ⟨r.value, r.rest, Nat.lt_succ_of_lt r.shorter⟩

def Read.map (f : α → β) (r : Read α s) : Read β s := ⟨f r.value, r.rest, r.shorter⟩

def Tail.behind {rest : List Char} (t : Tail rest) (c : Char) : Tail (c :: rest) :=
  ⟨t.rest, Nat.le_trans t.notLonger (Nat.le_succ _)⟩

/-- What is left of a text after a further reading. -/
def Tail.follow {s : List Char} (t : Tail s) (u : Tail t.rest) : Tail s :=
  ⟨u.rest, Nat.le_trans u.notLonger t.notLonger⟩

/-- A value that ends where a text is left behind a character. -/
def Tail.asRead {rest : List Char} (t : Tail rest) (value : α) (c : Char) : Read α (c :: rest) :=
  ⟨value, t.rest, Nat.lt_succ_of_le t.notLonger⟩

/-- A value that ends where a text is left behind what was read. -/
def Read.close (r : Read α s) (value : β) (t : Tail r.rest) : Read β s :=
  ⟨value, t.rest, Nat.lt_of_le_of_lt t.notLonger r.shorter⟩

/-- What was read behind what was read before. -/
def Read.follow (r : Read α s) (next : Read β r.rest) : Read β s :=
  ⟨next.value, next.rest, Nat.lt_trans next.shorter r.shorter⟩

def Reader.map (f : α → β) (read : Reader α) : Reader β := fun s => (read s).map (·.map f)

def isBlank (c : Char) : Bool := c == ' ' || c == '\t' || c == '\n' || c == '\r'

def skipBlank (s : List Char) : List Char := s.dropWhile isBlank

theorem length_skipBlank_le (s : List Char) : (skipBlank s).length ≤ s.length :=
  (List.dropWhile_sublist isBlank).length_le

theorem length_lt_of_skipBlank {s : List Char} {c : Char} {rest : List Char}
    (h : skipBlank s = c :: rest) : rest.length < s.length := by
  have := length_skipBlank_le s
  rw [h] at this
  exact this

theorem Read.length_lt_of_skipBlank {c : Char} {rest : List Char} (r : Read α s)
    (h : skipBlank r.rest = c :: rest) : rest.length < s.length :=
  Nat.lt_trans (Json.length_lt_of_skipBlank h) r.shorter

/-- Reads after blanks; a text that ends there ends in `atEnd`. -/
def afterBlank (atEnd : Cause) (read : (c : Char) → (rest : List Char) →
    Except Fault (Read α (c :: rest))) : Reader α := fun s =>
  match h : skipBlank s with
  | [] => .error (.ahead atEnd [])
  | c :: rest => (read c rest).map (·.within (h ▸ length_skipBlank_le s))

/-- Reads what follows a character. -/
def behindChar (read : Reader α) (c : Char) (rest : List Char) :
    Except Fault (Read α (c :: rest)) :=
  (read rest).map (·.behind c)

/-- Reads the rest of a word whose first letter has been seen. -/
def readLetters : List Char → (s : List Char) → Except Fault (Tail s)
  | [], s => .ok (.whole s)
  | _ :: _, [] => .error (.behind .endInValue [])
  | letter :: letters, c :: rest =>
    if c = letter then (readLetters letters rest).map (·.behind c)
    else .error (.ahead .misspeltWord (c :: rest))

/-- Reads a word by its letters after the first and gives what the word stands for. -/
def readWord (letters : String) (value : α) (c : Char) (rest : List Char) :
    Except Fault (Read α (c :: rest)) :=
  (readLetters letters.toList rest).map (·.asRead value c)

def readColon : Reader Unit :=
  afterBlank .endInObject fun c rest =>
    if c = ':' then .ok (.single () c rest) else .error (.ahead .noColon (c :: rest))

end ScanClient.Json
