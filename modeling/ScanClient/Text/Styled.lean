import ScanClient.Text.Controls

/-!
# Styled text

Colours and weights on a terminal. A style is switched on before a text, and everything is switched
off after it.
-/

namespace ScanClient.Text

inductive Style where
  | bold
  | dim
  | italic
  | red
  | green
  | yellow
  | blue
  | magenta
  | cyan
  | white
  | onRed
  | onGreen
  deriving DecidableEq, Repr

def Style.code : Style → Nat
  | .bold => 1
  | .dim => 2
  | .italic => 3
  | .red => 31
  | .green => 32
  | .yellow => 33
  | .blue => 34
  | .magenta => 35
  | .cyan => 36
  | .white => 37
  | .onRed => 41
  | .onGreen => 42

/-- The sequence that sets a style by its code. -/
def styleSequence (code : Nat) : String := String.ofList [escape, '['] ++ toString code ++ "m"

/-- A text in some styles, which are switched on one by one. -/
def styled (styles : List Style) (s : String) : String :=
  String.join (styles.map fun style => styleSequence style.code) ++ s ++ styleSequence 0

end ScanClient.Text
