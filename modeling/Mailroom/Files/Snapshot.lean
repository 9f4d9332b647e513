import Mailroom.Files.Basic
import Mailroom.Text.Split

/-! Files that are known in full. A directory is there if a file or the working directory lies below
it. -/
namespace Mailroom.Files

abbrev Place := List String

/-- Files by place, and the place from which relative paths count. -/
structure Snapshot where
  files : List (Place × List UInt8)
  workingDirectory : Place
  deriving DecidableEq, Repr

inductive Finding where
  | file (bytes : List UInt8)
  | directory
  | nothing
  deriving DecidableEq, Repr

def pathParts (path : String) : List String :=
  (Text.splitAt (· == '/') path.toList).map String.ofList

def pathNames (path : String) : Place :=
  (pathParts path).filter fun name => !name.isEmpty

def maxNameBytes : Nat := 255

def maxPathBytes : Nat := 4095

namespace Snapshot

/-- The places that are directories for certain: the root, and those above a file or on the way to the
working directory. -/
def isDirectory (s : Snapshot) (place : Place) : Bool :=
  place.isPrefixOf s.workingDirectory ||
    s.files.any fun (p, _) => place.isPrefixOf p && place.length < p.length

def find (s : Snapshot) (place : Place) : Finding :=
  match s.files.reverse.lookup place with
  | some bytes => .file bytes
  | none => if s.isDirectory place then .directory else .nothing

/-- Follows the parts of a path from a place; each part but the last needs a directory before it. -/
def follow (s : Snapshot) (place : Place) : List String → Except FileFault (List UInt8)
  | [] =>
    match s.find place with
    | .file bytes => .ok bytes
    | .directory => .error .directory
    | .nothing => .error .absent
  | part :: r =>
    match s.find place with
    | .nothing => .error .absent
    | .file _ => .error .notDirectory
    | .directory =>
      if part = "" ∨ part = "." then s.follow place r
      else if part = ".." then s.follow place.dropLast r
      else if maxNameBytes < part.utf8ByteSize then .error .longName
      else s.follow (place ++ [part]) r

def contents (s : Snapshot) : Files := fun path =>
  if path.toList.contains '\x00' then .error .nulInName
  else if maxPathBytes < path.utf8ByteSize then .error .longName
  else if path.isEmpty then .error .absent
  else s.follow (if isAbsolute path then [] else s.workingDirectory) (pathParts path)

end Snapshot

end Mailroom.Files
