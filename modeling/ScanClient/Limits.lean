/-!
# Upload rules

Which files may be uploaded at all: by the extension of the name first, then by size.
-/

namespace ScanClient

structure Limits where
  /-- Accepted extensions without the dot. Their case does not matter. -/
  allowedExtensions : List String
  /-- The largest accepted size in bytes. -/
  maxFileSize : Nat
  deriving DecidableEq, Repr, Inhabited

/-- Why a file may not be uploaded. -/
inductive Rejection where
  | missingExtension (name allowed : String)
  | unsupportedExtension (extension allowed : String)
  | tooLarge (size max : Nat)
  deriving DecidableEq, Repr

def Rejection.message : Rejection → String
  | .missingExtension name allowed =>
    "\"" ++ name ++ "\" has no file extension: expected one of " ++ allowed
  | .unsupportedExtension extension allowed =>
    "unsupported file type \"." ++ extension ++ "\": expected one of " ++ allowed
  | .tooLarge size max =>
    "file is too large (" ++ toString size ++ " bytes): the maximum is " ++ toString max ++ " bytes"

/-- What stands behind the last dot of a name, if there is a dot. -/
def afterLastDot (name : List Char) : Option (List Char) :=
  if name.contains '.' then some (name.reverse.takeWhile (· != '.')).reverse else none

/-- The extension of a name: what stands behind its last dot, unless that is empty. -/
def extensionOf (name : String) : Option String :=
  match afterLastDot name.toList with
  | none => none
  | some [] => none
  | some extension => some (String.ofList extension)

/-- Equality up to the case of the letters A to Z. -/
def sameLetters (a b : String) : Bool := a.toList.map Char.toLower == b.toList.map Char.toLower

namespace Limits

def standard : Limits where
  allowedExtensions := ["jar", "class", "zip"]
  maxFileSize := 50 * 1024 * 1024

def allows (limits : Limits) (extension : String) : Bool :=
  limits.allowedExtensions.any (sameLetters · extension)

def allowedText (limits : Limits) : String :=
  ", ".intercalate (limits.allowedExtensions.map ("." ++ ·))

/-- The first rule that a name and a size break. -/
def check (limits : Limits) (name : String) (size : Nat) : Except Rejection Unit :=
  match extensionOf name with
  | none => .error (.missingExtension name limits.allowedText)
  | some extension =>
    if !limits.allows extension then .error (.unsupportedExtension extension limits.allowedText)
    else if limits.maxFileSize < size then .error (.tooLarge size limits.maxFileSize)
    else .ok ()

end Limits

end ScanClient
