/-!
# Control characters

Text may hold commands to the terminal it is shown on: single control characters, and sequences that
an escape character begins. Where output is no terminal they are left out, and of the control
characters only tabs and the ends of lines and pages remain. One of those may stand within a
sequence; what follows it is shown up to the next control character, behind which the sequence goes
on.
-/

namespace ScanClient.Text

def escape : Char := '\x1B'

/-- What the next character belongs to. -/
inductive Passage where
  | text
  /-- An escape character has been read. -/
  | escaped
  /-- A short sequence, which ends with a letter or a digit. -/
  | shortSequence
  /-- A sequence of parameters, which ends with a letter. -/
  | parameters
  /-- A string to a device, which may begin with parameters. -/
  | device
  | deviceParameters
  | deviceSigns
  /-- A string that ends with the byte that ends strings, inside of whatever character. -/
  | string
  /-- A string that ends with a bell. -/
  | title
  deriving DecidableEq, Repr

/-- The control characters that remain. -/
def isLayout (c : Char) : Bool := c == '\t' || c == '\n' || c == '\x0C' || c == '\r'

def isControl (c : Char) : Bool := c < ' ' || c == '\x7F'

def isShown (c : Char) : Bool := !isControl c || isLayout c

def isBetween (first last c : Char) : Bool := first ≤ c && c ≤ last

/-- The byte that ends strings. -/
def stringEnd : UInt8 := 0x9C

namespace Passage

/-- What comes after a character that is no control character. -/
def next : Passage → Char → Passage
  | text, _ => text
  | escaped, c =>
    if c = '[' then parameters
    else if c = ']' then title
    else if c = 'P' then device
    else if c = 'X' ∨ c = '^' ∨ c = '_' then string
    else if isBetween ' ' '/' c then shortSequence
    else if isBetween '0' '~' c then text
    else escaped
  | shortSequence, c => if isBetween '0' '~' c then text else shortSequence
  | parameters, c => if isBetween '@' '~' c then text else parameters
  | device, c =>
    if isBetween ' ' '/' c then deviceSigns
    else if isBetween '0' '?' c then deviceParameters
    else if isBetween '@' '~' c then string
    else device
  | deviceParameters, c =>
    if isBetween ' ' '/' c then deviceSigns
    else if isBetween '<' '~' c then string
    else deviceParameters
  | deviceSigns, c => if isBetween '0' '~' c then string else deviceSigns
  | string, c => if (String.utf8EncodeChar c).contains stringEnd then text else string
  | title, _ => title

/-- Whether a character is shown where it stands. -/
def shows : Passage → Char → Bool
  | text, c => isShown c
  | escaped, c | shortSequence, c | parameters, c => isLayout c
  | _, _ => false

/-- What comes after a character. -/
def step (passage : Passage) (c : Char) : Passage :=
  if !isControl c then passage.next c
  else if passage = title ∧ c = '\x07' then text
  else passage

end Passage

/-- A text on its way to being shown. -/
structure Showing where
  passage : Passage
  /-- Whether the character before was shown. -/
  shown : Bool

/-- What comes after a character, and whether it is shown itself. Behind a character that was shown
the passage does not matter. -/
def Showing.step (state : Showing) (c : Char) : Showing :=
  if c = escape then ⟨.escaped, false⟩
  else if c = '\x18' ∨ c = '\x1A' then ⟨.text, false⟩
  else if state.shown ∧ isShown c then ⟨if c.toNat < 0x80 then state.passage else .text, true⟩
  else ⟨state.passage.step c, state.passage.shows c⟩

def removeControls (state : Showing) : List Char → List Char
  | [] => []
  | c :: rest =>
    let state := state.step c
    if state.shown then c :: removeControls state rest else removeControls state rest

/-- The text as it is shown where there is no terminal. -/
def withoutControls (s : String) : String := String.ofList (removeControls ⟨.text, false⟩ s.toList)

end ScanClient.Text
