import ScanClient.Number.Notation
import ScanClient.Text.Quoted

/-!
# JSON values

The members of an object are a list, since their order matters to whoever prints them. Objects that
were read keep their members sorted by key, the last of two equal keys counting.
-/

namespace ScanClient.Json

/-- A number is an integer where it fits 64 bits, signed or unsigned, and a double elsewhere. -/
inductive Number where
  | integer (value : Int)
  | double (value : Double)
  deriving DecidableEq, Repr, Inhabited

inductive Value where
  | null
  | boolean (value : Bool)
  | number (value : Number)
  | string (value : String)
  | array (items : List Value)
  | object (members : List (String × Value))
  deriving Repr, Inhabited

def Number.toDouble : Number → Double
  | .integer n => .ofInt n
  | .double x => x

/-- The decimal digits of an integer with its sign. -/
def integerText (n : Int) : String :=
  String.ofList ((if n < 0 then ['-'] else []) ++ Double.digitChars n.natAbs)

/-- The text of a double as JSON; what is not finite has none and is written as null. -/
def doubleText : Double → String
  | x@(.finite ..) => x.render .json
  | _ => "null"

def Number.text : Number → String
  | .integer n => integerText n
  | .double x => doubleText x

/-- Puts a member into members sorted by key, replacing the one with the same key. -/
def insertMember (key : String) (value : Value) :
    List (String × Value) → List (String × Value)
  | [] => [(key, value)]
  | (k, v) :: rest =>
    if key < k then (key, value) :: (k, v) :: rest
    else if key = k then (key, value) :: rest
    else (k, v) :: insertMember key value rest

def sortMembers (members : List (String × Value)) : List (String × Value) :=
  members.foldl (fun sorted (k, v) => insertMember k v sorted) []

namespace Value

/-- What a message calls a value that was found where another kind was expected. -/
def describe : Value → String
  | .null => "null"
  | .boolean b => "boolean \x60" ++ (if b then "true" else "false") ++ "\x60"
  | .number (.integer n) => "integer \x60" ++ integerText n ++ "\x60"
  | .number (.double x) => "floating point \x60" ++ x.render .json ++ "\x60"
  | .string s => "string " ++ Text.quoted s
  | .array _ => "sequence"
  | .object _ => "map"

def text? : Value → Option String
  | .string s => some s
  | _ => none

/-- The value of a member; nothing but an object has members. -/
def member? (key : String) : Value → Option Value
  | .object members => members.lookup key
  | _ => none

def ofOption (f : α → Value) : Option α → Value
  | none => .null
  | some a => f a

def ofNat (n : Nat) : Value := .number (.integer n)

/-- A double as a value; one that is not finite is no number. -/
def ofDouble : Double → Value
  | x@(.finite ..) => .number (.double x)
  | _ => .null

def isNull : Value → Bool
  | .null => true
  | _ => false

end Value

end ScanClient.Json
