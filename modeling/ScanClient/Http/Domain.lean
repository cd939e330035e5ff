import ScanClient.Http.Domain.Direction
import ScanClient.Http.Domain.Fate
import ScanClient.Http.Domain.Joining
import ScanClient.Http.Domain.Label

/-!
# Domains

Names of hosts with letters of any script, written with ASCII letters alone. What is written in
several ways is written in one before it is taken apart into labels.
-/

namespace ScanClient.Http

open Text

/-- A part of a domain between dots. -/
structure Label where
  letters : List Char
  /-- The label with ASCII letters alone. -/
  ascii : List Char

/-- More letters are not written with digits. -/
def maxLetters : Nat := 1000

/-- A label with more digits is not read. -/
def maxDigits : Nat := 2000

namespace Label

/-- The letters that a text behind the mark stands for. They would not be written so if they could
be written otherwise. -/
def readMarked (text : List Char) : Option (List Char) := do
  if maxDigits < text.length ∨ !text.all isAscii then none
  let letters ← readLabel text
  if letters.all isAscii ∨ letters.any (fate · != .kept) ∨ compose letters ≠ letters then none
  else some letters

def read (text : List Char) : Option Label :=
  if labelMark.isPrefixOf text then
    (readMarked (text.drop labelMark.length)).map fun letters => ⟨letters, text⟩
  else if !text.all isAscii && maxLetters < text.length then none
  else some ⟨text, asciiLabel text⟩

/-- Whether a label does not begin with a mark, and all joiners in it make a difference. -/
def isSound (label : Label) : Bool :=
  !(label.letters.head?.any isMark) && joinersFit [] label.letters

end Label

/-- The letters that a domain stands for, unless one may not stand in a domain. -/
def plainLetters : List Char → Option (List Char)
  | [] => some []
  | c :: rest => do
    let rest ← plainLetters rest
    match fate c with
    | .kept => some (c :: rest)
    | .ignored => some rest
    | .refused => none
    | .replaced letters => some (letters ++ rest)

/-- Whether the labels of a domain may stand together. -/
def areSound (labels : List Label) : Bool :=
  labels.all Label.isSound &&
    (!(labels.any fun label => hasRight label.letters) ||
      labels.all fun label => keepsDirection label.letters)

/-- Whether a domain has ASCII letters alone, and no label in which they stand for others. -/
def isPlain (name : List Char) : Bool :=
  name.all isAscii && !((name.map Char.toLower).splitOn '.').any (labelMark.isPrefixOf ·)

/-- A domain with small ASCII letters, unless something in it is unusable. -/
def asciiDomain (name : List Char) : Option (List Char) :=
  if isPlain name then some (name.map Char.toLower)
  else do
    let letters ← plainLetters name
    let labels ← ((compose letters).splitOn '.').mapM Label.read
    if areSound labels then some (['.'].intercalate (labels.map (·.ascii))) else none

end ScanClient.Http
