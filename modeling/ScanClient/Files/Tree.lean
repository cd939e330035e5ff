import ScanClient.Files.Blob
import ScanClient.ScanError

/-!
# File trees

Folders, files, links and devices by the names that lead to them. A path is bytes between slashes;
it is followed name by name, and a link stands for the path it holds.
-/

namespace ScanClient.Files

abbrev Name := List UInt8

/-- The names from the root down to a place. -/
abbrev Place := List Name

inductive Node where
  | folder
  | file (contents : Blob)
  | link (target : List UInt8)
  /-- Neither a folder nor a regular file. Reading it gives nothing, or never ends; what is written to
  it is lost. -/
  | device (endless : Bool)
  deriving DecidableEq, Repr

structure Tree where
  nodes : List (Place × Node)
  /-- Where paths without a leading slash begin. -/
  workingFolder : Place

def slash : UInt8 := 0x2F

def dot : Name := [0x2E]

def dotDot : Name := [0x2E, 0x2E]

/-- The names of a path. A leading, trailing or doubled slash leaves an empty name. -/
def splitPath (path : List UInt8) : List Name := path.splitOn slash

def maxPathLength : Nat := 4095

def maxNameLength : Nat := 255

/-- How many links are followed on the way. -/
def maxLinks : Nat := 40

/-- No file is longer, and no more bytes are ever in memory. -/
def maxLength : Nat := Nat.pow 2 63 - 1

namespace Node

/-- The size of a node. Only a file has one. -/
def size : Node → Nat
  | .file contents => contents.size
  | _ => 0

/-- What reading a node gives, no more than a limit. Of what never ends it is as much as that, if there
is room for it. -/
def readUpTo (limit : Nat) : Node → Except FileFault Blob
  | .folder => .error .isADirectory
  | .file contents => .ok (contents.take limit)
  | .device true =>
    if limit ≤ maxLength then .ok (.zeros limit) else .error (.other "out of memory")
  | _ => .ok (.bytes [])

end Node

namespace Tree

/-- The node at a place. The root is always a folder. -/
def node (tree : Tree) (place : Place) : Option Node :=
  if place.isEmpty then some .folder else tree.nodes.lookup place

/-- Where a path begins that is met at a place. -/
def start (path : List UInt8) (here : Place) : Place :=
  if path.head? = some slash then [] else here

/-- Follows names from a place on, to where they lead and what is there. Every name, even an empty
one, is looked up in a folder. Only where the last name leads may be nothing. -/
def walk (tree : Tree) (links : Nat) (here : Place) :
    List Name → Except FileFault (Place × Option Node)
  | [] => .ok (here, tree.node here)
  | name :: names =>
    match tree.node here with
    | some .folder =>
      if name.isEmpty ∨ name = dot then walk tree links here names
      else if name = dotDot then walk tree links here.dropLast names
      else if maxNameLength < name.length then .error .nameTooLong
      else
        match tree.node (here ++ [name]) with
        | none => if names.isEmpty then .ok (here ++ [name], none) else .error .notFound
        | some (.link target) =>
          match links with
          | 0 => .error .tooManyLinks
          | links + 1 => walk tree links (start target here) (splitPath target ++ names)
        | some _ => walk tree links (here ++ [name]) names
    | _ => .error .notADirectory
termination_by names => (links, names.length)

/-- Where a path leads, and what is there. -/
def follow (tree : Tree) (path : List UInt8) : Except FileFault (Place × Option Node) :=
  if path.contains 0 then .error (.invalidInput "file name contained an unexpected NUL byte")
  else if path.isEmpty then .error .notFound
  else if maxPathLength < path.length then .error .nameTooLong
  else tree.walk maxLinks (start path tree.workingFolder) (splitPath path)

/-- What a path leads to. -/
def find (tree : Tree) (path : List UInt8) : Except FileFault Node :=
  match tree.follow path with
  | .error fault => .error fault
  | .ok (_, some node) =>
    if maxLength < node.size then
      .error (.other "Value too large for defined data type (os error 75)")
    else .ok node
  | .ok (_, none) => .error .notFound

/-- The size of what a path leads to, or another if it leads nowhere. -/
def sizeOr (tree : Tree) (path : List UInt8) (other : Nat) : Nat :=
  match tree.find path with
  | .ok node => node.size
  | .error _ => other

def put (tree : Tree) (place : Place) (node : Node) : Tree :=
  { tree with nodes := (place, node) :: tree.nodes.filter fun (p, _) => p != place }

/-- The place a path names, links on the way followed but not one at its end. -/
def placeOf (tree : Tree) (path : List UInt8) : Place :=
  let names := (splitPath path).filter fun name => !name.isEmpty && name != dot
  let parent :=
    match tree.walk maxLinks (start path tree.workingFolder) names.dropLast with
    | .ok (place, _) => place
    | .error _ => start path tree.workingFolder ++ names.dropLast
  match names.getLast? with
  | some name => parent ++ [name]
  | none => parent

/-- Puts a file where a path leads, unless something other than a file is there. -/
def putFile (tree : Tree) (path : List UInt8) (contents : Blob) : Tree :=
  match tree.follow path with
  | .ok (place, none) | .ok (place, some (.file _)) => tree.put place (.file contents)
  | _ => tree

/-- Puts a folder, and those above it that are missing. -/
def putFolder (tree : Tree) (path : List UInt8) : Tree :=
  let place := tree.placeOf path
  (List.range place.length).foldl
    (fun tree n =>
      let above := place.take (n + 1)
      if (tree.node above).isSome then tree else tree.put above .folder)
    tree

def putLink (tree : Tree) (path target : List UInt8) : Tree :=
  tree.put (tree.placeOf path) (.link target)

/-- Takes away what a path names, with everything inside. -/
def remove (tree : Tree) (path : List UInt8) : Tree :=
  let place := tree.placeOf path
  { tree with nodes := tree.nodes.filter fun (p, _) => !place.isPrefixOf p }

end Tree

end ScanClient.Files
