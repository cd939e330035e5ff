import ScanClient.Json.Text
import ScanClient.Json.Numeral

/-!
# Skipping values

A value nobody asked for is checked for its form only. The brackets that are open are kept in a
list, so there is no limit to their depth.
-/

namespace ScanClient.Json

def skipEscape : Reader Unit
  | [] => .error (.behind .endInString [])
  | c :: rest =>
    if (shortEscape c).isSome then .ok (.single () c rest)
    else if c = 'u' then behindChar (Reader.map (fun _ => ()) readHex) c rest
    else .error (.ahead .badEscape (c :: rest))

def skipTextFrom (start : List Char) (s : List Char) (h : s.length ≤ start.length) :
    Except Fault (Read Unit start) :=
  match s with
  | [] => .error (.behind .endInString [])
  | c :: rest =>
    have hrest : rest.length < start.length := h
    if c = '"' then .ok ⟨(), rest, hrest⟩
    else if c = '\\' then
      match skipEscape rest with
      | .error e => .error e
      | .ok r => skipTextFrom start r.rest (Nat.le_of_lt (Nat.lt_trans r.shorter hrest))
    else if c < ' ' then .error (.behind .controlCharacter (c :: rest))
    else skipTextFrom start rest (Nat.le_of_lt hrest)
termination_by s.length
decreasing_by
  · have := r.shorter; simp only [List.length_cons]; omega
  · simp only [List.length_cons]; omega

/-- Skips a string whose opening quote has been read. -/
def skipText : Reader Unit := fun s => skipTextFrom s s (length_le_self s)

/-- A value without brackets, by its first character. -/
def skipScalar (c : Char) (rest : List Char) : Except Fault (Read Unit (c :: rest)) :=
  if c = 'n' then readWord "ull" () c rest
  else if c = 't' then readWord "rue" () c rest
  else if c = 'f' then readWord "alse" () c rest
  else if c = '"' then behindChar skipText c rest
  else if c = '-' ∨ c.isDigit then Reader.map (fun _ => ()) (readNumeral .badNumber) (c :: rest)
  else .error (.ahead .noValue (c :: rest))

def skipKey : Reader Unit := fun s =>
  match afterBlank .endInObject (fun c rest =>
      if c = '"' then behindChar skipText c rest
      else .error (.ahead .keyNotString (c :: rest))) s with
  | .error e => .error e
  | .ok key => (readColon key.rest).map key.follow

inductive Bracket where
  | square
  | curly
  deriving DecidableEq, Repr

namespace Bracket

def ofChar? : Char → Option Bracket
  | '[' => some .square
  | '\x7b' => some .curly
  | _ => none

def close : Bracket → Char
  | .square => ']'
  | .curly => '\x7d'

def unclosed : Bracket → Cause
  | .square => .endInList
  | .curly => .endInObject

def noComma : Bracket → Cause
  | .square => .noCommaInList
  | .curly => .noCommaInObject

end Bracket

/-- What is expected inside brackets: a value, what begins an element, or, with or without the right
to a comma, what follows one. -/
inductive Place where
  | value
  | element
  | next (comma : Bool)

def Place.rank : Place → Nat
  | .value => 0
  | .element => 1
  | .next _ => 2

/-- Skips until every bracket of `unclosed` is closed, the innermost first. -/
def skipInside (start : List Char) (unclosed : List Bracket) (place : Place) (s : List Char)
    (h : s.length ≤ start.length) : Except Fault (Tail start) :=
  match unclosed with
  | [] => .ok ⟨s, h⟩
  | bracket :: outer =>
    match place with
    | .value =>
      match hs : skipBlank s with
      | [] => .error (.ahead .endInValue [])
      | c :: rest =>
        have hrest : rest.length < s.length := length_lt_of_skipBlank hs
        match Bracket.ofChar? c with
        | some inner =>
          skipInside start (inner :: bracket :: outer) (.next false) rest
            (Nat.le_trans (Nat.le_of_lt hrest) h)
        | none =>
          match skipScalar c rest with
          | .error e => .error e
          | .ok r =>
            skipInside start (bracket :: outer) (.next true) r.rest
              (Nat.le_trans (Nat.le_trans (Nat.le_of_lt_succ r.shorter) (Nat.le_of_lt hrest)) h)
    | .element =>
      match bracket with
      | .square => skipInside start (.square :: outer) .value s h
      | .curly =>
        match skipKey s with
        | .error e => .error e
        | .ok key =>
          skipInside start (.curly :: outer) .value key.rest
            (Nat.le_trans (Nat.le_of_lt key.shorter) h)
    | .next comma =>
      match hs : skipBlank s with
      | [] => .error (.ahead bracket.unclosed [])
      | c :: rest =>
        have hrest : rest.length < s.length := length_lt_of_skipBlank hs
        if comma ∧ c = ',' then
          skipInside start (bracket :: outer) .element rest (Nat.le_trans (Nat.le_of_lt hrest) h)
        else if c = bracket.close then
          skipInside start outer (.next true) rest (Nat.le_trans (Nat.le_of_lt hrest) h)
        else if comma then .error (.ahead bracket.noComma (c :: rest))
        else skipInside start (bracket :: outer) .element s h
termination_by (s.length, place.rank)
decreasing_by
  · exact .left _ _ hrest
  · exact .left _ _ (Nat.lt_of_le_of_lt (Nat.le_of_lt_succ r.shorter) hrest)
  · exact .right _ (by decide)
  · exact .left _ _ key.shorter
  · exact .left _ _ hrest
  · exact .left _ _ hrest
  · exact .right _ (Nat.lt_succ_self 1)

/-- Skips one value. -/
def skipValue : Reader Unit :=
  afterBlank .endInValue fun c rest =>
    match Bracket.ofChar? c with
    | some bracket =>
      (skipInside rest [bracket] (.next false) rest (length_le_self rest)).map (·.asRead () c)
    | none => skipScalar c rest

end ScanClient.Json
