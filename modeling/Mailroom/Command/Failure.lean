import Mailroom.Error
import Mailroom.Files.Basic

/-! How the command fails, and how that is reported. -/
namespace Mailroom.Command

inductive Failure where
  /-- An override holds no equals sign. -/
  | bareOverride (text : String)
  | refusedOverride (text : String) (fault : PropertyFault)
  | unreadableFile (path : String) (fault : FileFault)
  | notJson (path : String) (fault : Json.Fault)
  | refusedFile (path : String) (fault : PropertyFault)
  /-- The properties do not amount to options. -/
  | invalidOptions (error : Error)
  /-- The mail itself fails, and nothing is added to that. -/
  | mail (error : Error)
  /-- The message was not sent. -/
  | notSent (error : Error)
  /-- The server answers, but does not go along. -/
  | notAccepted (host : String)
  deriving DecidableEq, Repr

def errorChain (e : Error) : List String := e.message :: e.cause?.toList

namespace Failure

/-- What has failed, and then each time what lies behind. -/
def chain : Failure → List String
  | bareOverride text => ["override '" ++ text ++ "' must look like KEY=VALUE"]
  | refusedOverride text fault =>
    ("invalid override '" ++ text ++ "'") :: errorChain (.invalidProperties fault)
  | unreadableFile path fault => ["failed to read " ++ path, fault.message]
  | notJson path fault => [path ++ " is not valid JSON", fault.message]
  | refusedFile path fault =>
    ("invalid properties in " ++ path) :: errorChain (.invalidProperties fault)
  | invalidOptions e => "invalid mail options" :: errorChain e
  | mail e => errorChain e
  | notSent e => "failed to send mail" :: errorChain e
  | notAccepted host => [host ++ ": server did not accept the connection"]

def hanging (width : Nat) (text : String) : String :=
  .ofList (text.toList.flatMap fun c => if c = '\n' then c :: List.replicate width ' ' else [c])

/-- The causes of a failure; more than one are numbered. -/
def causeLines : List String → List String
  | [] => []
  | [cause] => ["    " ++ hanging 4 cause]
  | causes => causes.zipIdx.map fun (cause, i) =>
      let number := toString i
      String.ofList (List.replicate (5 - number.length) ' ') ++ number ++ ": " ++ hanging 7 cause

def report (f : Failure) : String :=
  match f.chain with
  | [] => ""
  | [message] => "Error: " ++ message ++ "\n"
  | message :: causes =>
    "Error: " ++ message ++ "\n\nCaused by:\n" ++ "\n".intercalate (causeLines causes) ++ "\n"

end Failure

end Mailroom.Command
