import Mailroom.Text.Utf8

/-! Files as a command sees them: contents by path. -/
namespace Mailroom

inductive FileFault where
  | absent
  /-- Something that has to be a directory is none. -/
  | notDirectory
  /-- The path leads to a directory. -/
  | directory
  | longName
  | nulInName
  /-- The contents are no text. -/
  | notText
  /-- The system says nothing of what is at the path. -/
  | unreachable (detail : String) (code : Nat)
  /-- Another failure of the system, with what is at the path. -/
  | system (detail : String) (code : Nat)
  deriving DecidableEq, Repr

namespace FileFault

def systemMessage (detail : String) (code : Nat) : String :=
  detail ++ " (os error " ++ toString code ++ ")"

def message : FileFault → String
  | absent => systemMessage "No such file or directory" 2
  | notDirectory => systemMessage "Not a directory" 20
  | directory => systemMessage "Is a directory" 21
  | longName => systemMessage "File name too long" 36
  | nulInName => "file name contained an unexpected NUL byte"
  | notText => "stream did not contain valid UTF-8"
  | unreachable detail code | system detail code => systemMessage detail code

/-- Nothing is found at the path. -/
def isMissing : FileFault → Bool
  | absent | notDirectory | longName | nulInName | unreachable .. => true
  | directory | notText | system .. => false

end FileFault

/-- The contents by path. -/
abbrev Files := String → Except FileFault (List UInt8)

namespace Files

def has (files : Files) (path : String) : Bool :=
  match files path with
  | .ok _ => true
  | .error f => !f.isMissing

def text (files : Files) (path : String) : Except FileFault String := do
  match Text.readUtf8 (← files path) with
  | .ok cs => return .ofList cs
  | .error _ => throw .notText

def isAbsolute (path : String) : Bool := path.toList.head? == some '/'

/-- A name below a directory; the separator is not doubled. -/
def join (directory name : String) : String :=
  match directory.toList.getLast? with
  | none | some '/' => directory ++ name
  | _ => directory ++ "/" ++ name

end Files

end Mailroom
