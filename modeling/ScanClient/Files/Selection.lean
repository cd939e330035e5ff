import ScanClient.Files.Tree
import ScanClient.Number.Unsigned

/-!
# Selected files

The file somebody picked for scanning. One in memory is there with its contents; one on disk is
known by its path, and is read only when its contents are needed.
-/

namespace ScanClient

open Files

/-- Where the contents of a file are. -/
inductive Contents where
  | inMemory (contents : Blob)
  | onDisk (path : List UInt8)
  deriving DecidableEq, Repr

structure ScanFile where
  name : String
  /-- The size when the file was selected. -/
  size : Nat
  contents : Contents
  deriving DecidableEq, Repr

namespace ScanFile

def ofBlob (name : String) (contents : Blob) : ScanFile := ⟨name, contents.size, .inMemory contents⟩

/-- The last name of a path. Empty names and dots at its end say nothing. -/
def lastName (path : List UInt8) : Option Name :=
  ((splitPath path).filter fun name => !name.isEmpty && name != dot).getLast?

/-- Selects the regular file a path leads to, without reading it. -/
def select (tree : Tree) (path : List UInt8) : Except FileFault ScanFile :=
  match tree.find path with
  | .error fault => .error fault
  | .ok (.file contents) =>
    match lastName path with
    | some name => .ok ⟨Text.Utf8.decodeLossy name, contents.size, .onDisk path⟩
    | none => .error (.invalidInput (Text.Utf8.decodeLossy path ++ " has no file name"))
  | .ok _ => .error (.invalidInput (Text.Utf8.decodeLossy path ++ " is not a regular file"))

def checkSize (maxSize : Nat) (contents : Blob) : Except ScanError Blob :=
  if maxSize < contents.size then .error (.rejected (.tooLarge contents.size maxSize))
  else .ok contents

/-- How much of a file is read: one byte more than allowed, which tells that it is too large. -/
def readLimit (maxSize : Nat) : Nat := min (maxSize + 1) maxUInt64

/-- The contents as they are now, unless they are larger than allowed. A file on disk is not read any
further than it takes to know that; its size is then asked for. -/
def read (file : ScanFile) (tree : Tree) (maxSize : Nat) : Except ScanError Blob :=
  match file.contents with
  | .inMemory contents => checkSize maxSize contents
  | .onDisk path =>
    match tree.find path >>= Node.readUpTo (readLimit maxSize) with
    | .error fault => .error (.file fault)
    | .ok start =>
      if maxSize < start.size then
        .error (.rejected (.tooLarge (tree.sizeOr path start.size) maxSize))
      else .ok start

end ScanFile

end ScanClient
