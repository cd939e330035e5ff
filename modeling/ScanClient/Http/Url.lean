import ScanClient.Http.Host

/-!
# Addresses

An address is taken apart the forgiving way: blanks around it and line breaks in it do not count,
backslashes are slashes, segments of dots are resolved, and what may not stand in an address is
encoded.
-/

namespace ScanClient.Http

inductive UrlPath where
  /-- What stands between slashes. -/
  | segments (list : List String)
  /-- A path that does not begin with a slash. -/
  | rootless (text : String)
  deriving DecidableEq, Repr

/-- Who asks, as it stands before the host. -/
structure Credentials where
  username : String
  password : Option String
  deriving DecidableEq, Repr

structure Url where
  scheme : String
  credentials : Option Credentials
  host : Option Host
  /-- The port, unless it is the one of the scheme. -/
  port : Option Nat
  path : UrlPath
  query : Option String
  fragment : Option String
  deriving DecidableEq, Repr

/-- The schemes with rules of their own, and their ports. -/
def specialSchemes : List (String × Nat) :=
  [("http", 80), ("https", 443), ("ws", 80), ("wss", 443), ("ftp", 21)]

def fileScheme : String := "file"

def isSpecial (scheme : String) : Bool :=
  scheme == fileScheme || (specialSchemes.lookup scheme).isSome

def isSlash (special : Bool) (c : Char) : Bool := c == '/' || (special && c == '\\')

/-! ## What is kept -/

def keptInFragment (c : Char) : Bool := !isControl c && !" \"<>\x60".toList.contains c

def keptInPath (c : Char) : Bool := keptInFragment c && !"#?\x7b\x7d".toList.contains c

def keptInCredentials (c : Char) : Bool := keptInPath c && !"/:;=@[\\]^|".toList.contains c

def keptInQuery (special : Bool) (c : Char) : Bool :=
  !isControl c && !" \"#<>".toList.contains c && !(special && c == '\'')

def encodeText (keep : Char → Bool) (s : List Char) : String := String.ofList (percentEncode keep s)

/-! ## Paths -/

/-- Dots may be encoded. -/
def decodeDots : List Char → List Char
  | '%' :: '2' :: 'e' :: rest => '.' :: decodeDots rest
  | '%' :: '2' :: 'E' :: rest => '.' :: decodeDots rest
  | c :: rest => c :: decodeDots rest
  | [] => []

/-- A letter of a drive: with a colon behind it, or a bar in place of the colon. -/
def isDrive : List Char → Bool
  | [letter, c] => letter.isAlpha && (c == ':' || c == '|')
  | _ => false

def driveText (drive : List Char) : String := String.ofList (drive.take 1 ++ [':'])

/-- Whether nothing stands behind a drive but what a backslash parts from it. -/
def beginsWithDrive (segment : List Char) : Bool :=
  isDrive (segment.take 2) && (segment.length == 2 || segment[2]? == some '\\')

/-- The path that leads to a path. What begins with a drive is not left. -/
def parentPath (path : List String) : List String :=
  if path.getLast?.any (beginsWithDrive ·.toList) then path else path.dropLast

/-- Adds segments to a path. A dot adds nothing, and two lead back; at the end of the path both
leave an empty segment. A file may be on a drive. -/
def addSegments (file : Bool) (path : List String) : List (List Char) → List String
  | [] => path
  | segment :: rest =>
    let closing := if rest.isEmpty then [""] else []
    if decodeDots segment = ['.', '.'] then addSegments file (parentPath path ++ closing) rest
    else if decodeDots segment = ['.'] then addSegments file (path ++ closing) rest
    else if file ∧ path.isEmpty ∧ isDrive segment then addSegments file [driveText segment] rest
    else addSegments file (path ++ [encodeText keptInPath segment]) rest

def splitSegments (special : Bool) (s : List Char) : List (List Char) :=
  (s.map fun c => if isSlash special c then '/' else c).splitOn '/'

/-- A path that begins with a slash, or is empty. -/
def parsePath (scheme : String) (s : List Char) : List String :=
  let special := isSpecial scheme
  match s with
  | [] => if special then [""] else []
  | c :: rest =>
    addSegments (scheme == fileScheme) []
      (splitSegments special (if isSlash special c then rest else c :: rest))

/-- A path without the empty segments before the first other. -/
def trimSegments (path : List String) : List String :=
  let trimmed := path.dropWhile (·.isEmpty)
  if trimmed.isEmpty then [""] else trimmed

/-! ## Parts -/

/-- What stands before the first of some characters, and from there on. -/
def splitBefore (stop : Char → Bool) (s : List Char) : List Char × List Char :=
  (s.takeWhile fun c => !stop c, s.dropWhile fun c => !stop c)

structure Rest where
  path : List Char
  query : Option (List Char)
  fragment : Option (List Char)

/-- The path, the query and the fragment of what follows the authority. -/
def splitRest (s : List Char) : Rest :=
  let (beforeFragment, fragment) := splitBefore (· == '#') s
  let (path, query) := splitBefore (· == '?') beforeFragment
  let behind (s : List Char) : Option (List Char) := if s.isEmpty then none else some (s.drop 1)
  ⟨path, behind query, behind fragment⟩

/-- The part before the first colon outside of brackets, and what follows it. -/
def splitPort (bracketed : Bool) : List Char → List Char × List Char
  | [] => ([], [])
  | c :: rest =>
    if c = ':' ∧ !bracketed then ([], c :: rest)
    else
      let (host, port) :=
        splitPort (if c = '[' then true else if c = ']' then false else bracketed) rest
      (c :: host, port)

/-- The port that the digits behind a colon are; none mean no port. -/
def parsePort (scheme : String) (digits : List Char) : Except UrlFault (Option Nat) :=
  if !digits.all Char.isDigit then .error .invalidPort
  else if digits.isEmpty then .ok none
  else
    let n := Nat.ofDigitChars 10 digits 0
    if 65535 < n then .error .invalidPort
    else if specialSchemes.lookup scheme = some n then .ok none
    else .ok (some n)

/-- What stands before the last at sign, and what stands behind it. -/
def splitCredentials (s : List Char) : Option (List Char) × List Char :=
  let host := (s.reverse.takeWhile (· != '@')).reverse
  (if host.length < s.length then some (s.take (s.length - host.length - 1)) else none, host)

/-- A name, and behind a colon a password. -/
def parseCredentials (s : List Char) : Option Credentials :=
  let (username, password) := splitBefore (· == ':') s
  let password := password.drop 1
  if username.isEmpty ∧ password.isEmpty then none
  else
    some
      { username := encodeText keptInCredentials username
        password :=
          if password.isEmpty then none else some (encodeText keptInCredentials password) }

structure Authority where
  credentials : Option Credentials
  host : Host
  port : Option Nat
  /-- What a backslash behind the port begins. -/
  path : List Char

/-- An authority, which is the last of the text or not. -/
def parseAuthority (scheme : String) (last : Bool) (s : List Char) : Except UrlFault Authority := do
  let (before, hostAndPort) := splitCredentials s
  let credentials := before.bind parseCredentials
  let (host, port) := splitPort false hostAndPort
  let (port, path) := splitBefore (· == '\\') port
  let special := isSpecial scheme
  if before = some [] ∧ host.isEmpty ∧ !last then .error .emptyHost
  else if host.isEmpty ∧ (special ∨ credentials.isSome ∨ !port.isEmpty) then .error .emptyHost
  else
    let host ← if special then parseHost host else parseOtherHost host
    let port ← parsePort scheme (port.drop 1)
    pure ⟨credentials, host, port, path⟩

/-- An address with its path, query and fragment. -/
def finishUrl (scheme : String) (host : Option Host) (rootless : Bool) (s : List Char) : Url :=
  let rest := splitRest s
  { scheme, host
    credentials := none
    port := none
    path :=
      if rootless then .rootless (encodeText (fun c => !isControl c) rest.path)
      else .segments (parsePath scheme rest.path)
    query := rest.query.map (encodeText (keptInQuery (isSpecial scheme)))
    fragment := rest.fragment.map (encodeText keptInFragment) }

/-- What follows the slashes before an authority. -/
def parseHosted (scheme : String) (s : List Char) : Except UrlFault Url := do
  let (text, rest) :=
    splitBefore (fun c => isSlash (isSpecial scheme) c || c == '?' || c == '#') s
  let authority ← parseAuthority scheme rest.isEmpty text
  pure
    { finishUrl scheme (some authority.host) false (authority.path ++ rest) with
      credentials := authority.credentials
      port := authority.port }

/-- The address of a file. What is on a drive is not on a host. -/
def fileUrl (host : Host) (s : List Char) : Url :=
  let url := finishUrl fileScheme (some host) false s
  match url.path with
  | .segments path =>
    let onDrive := path.head?.any (isDrive ·.toList)
    { url with
      host := some (if onDrive then .name "" else host)
      path := .segments (trimSegments path) }
  | .rootless _ => url

/-- An address of a file, which may have a host. -/
def parseFile (s : List Char) : Except UrlFault Url :=
  match s with
  | a :: b :: rest =>
    if isSlash true a ∧ isSlash true b then do
      let (authority, path) := splitBefore (fun c => isSlash true c || c == '?' || c == '#') rest
      if isDrive authority then pure (fileUrl (.name "") rest)
      else
        let host ← if authority.isEmpty then pure (Host.name "") else parseHost authority
        pure (fileUrl (if host = .name "localhost" then .name "" else host) path)
    else .ok (fileUrl (.name "") s)
  | s => .ok (fileUrl (.name "") s)

def isSchemeChar (c : Char) : Bool := c.isAlphanum || c == '+' || c == '-' || c == '.'

/-- The scheme, in small letters, and what follows its colon. -/
def splitScheme (s : List Char) : Option (String × List Char) :=
  let scheme := s.takeWhile isSchemeChar
  match scheme.head?, s.drop scheme.length with
  | some first, ':' :: rest =>
    if first.isAlpha then some (String.ofList (scheme.map Char.toLower), rest) else none
  | _, _ => none

/-- What does not count: blanks and controls around an address, and tabs and line breaks in it. -/
def cleanUrl (s : List Char) : List Char :=
  let trimmed := (s.dropWhile (· ≤ ' ')).reverse.dropWhile (· ≤ ' ')
  trimmed.reverse.filter fun c => c != '\t' && c != '\n' && c != '\r'

namespace Credentials

def text (credentials : Credentials) : String :=
  credentials.username ++ ((credentials.password.map (":" ++ ·)).getD "") ++ "@"

/-- Whether a request can carry them beside the address: the name can be read, and is not empty
unless there is a password that can be read. -/
def areReadable (credentials : Credentials) : Bool :=
  let read (s : String) : Option String := Text.Utf8.decode? (percentDecode s.toList)
  match read credentials.username with
  | none => false
  | some username => !username.isEmpty || (credentials.password.bind read).isSome

end Credentials

/-- The signs that a name in a request may contain, besides letters and digits. -/
def nameSigns : List Char := "!$&'()*+,-.;=_~".toList

/-- A longer address is not asked. -/
def maxLength : Nat := 65534

namespace Url

def parse (text : String) : Except UrlFault Url :=
  match splitScheme (cleanUrl text.toList) with
  | none => .error .relativeWithoutBase
  | some (scheme, rest) =>
    if scheme = fileScheme then parseFile rest
    else if isSpecial scheme then parseHosted scheme (rest.dropWhile (isSlash true))
    else
      match rest with
      | '/' :: '/' :: behind => parseHosted scheme behind
      | '/' :: _ => .ok (finishUrl scheme none false rest)
      | _ => .ok (finishUrl scheme none true rest)

def pathText (url : Url) : String :=
  match url.path with
  | .segments list => String.join (list.map ("/" ++ ·))
  | .rootless text => text

/-- The path and the query, which a request asks for. -/
def target (url : Url) : String := url.pathText ++ ((url.query.map ("?" ++ ·)).getD "")

/-- What stands between the scheme and the path. Without a host, a path that begins with two slashes
must not look like one. -/
def authorityText (url : Url) : String :=
  match url.host with
  | some host =>
    "//" ++ ((url.credentials.map Credentials.text).getD "") ++ host.text ++
      ((url.port.map fun n => ":" ++ toString n).getD "")
  | none => if "//".toList.isPrefixOf url.pathText.toList then "/." else ""

def text (url : Url) : String :=
  url.scheme ++ ":" ++ url.authorityText ++ url.target ++ ((url.fragment.map ("#" ++ ·)).getD "")

/-- Only addresses of the web are asked. -/
def isWeb (url : Url) : Bool := url.scheme == "http" || url.scheme == "https"

/-- The address that a request names. -/
def withoutCredentials (url : Url) : Url :=
  if url.credentials.any Credentials.areReadable then { url with credentials := none } else url

/-- Whether a request can name an address. -/
def isNameable (url : Url) : Bool :=
  url.text.utf8ByteSize ≤ maxLength &&
    match url.host with
    | some (.name name) => name.toList.all fun c => c.isAlphanum || nameSigns.contains c
    | _ => true

/-- The host and the port a request goes to. -/
def destination (url : Url) : Option (Host × Nat) :=
  url.host.map fun host => (host, url.port.getD ((specialSchemes.lookup url.scheme).getD 0))

end Url

end ScanClient.Http
