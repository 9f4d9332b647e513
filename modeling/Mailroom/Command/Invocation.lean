import Mailroom.Recipients.Basic

/-! What the command is asked to do. -/
namespace Mailroom.Command

structure SendRequest where
  sender : String
  primary : List String := []
  cc : List String := []
  bcc : List String := []
  subject : String := ""
  text : Option String := none
  /-- The file that holds the text, if the text is not given. -/
  textFile : Option String := none
  format : String := "plain"
  /-- The message is composed and shown, and nothing is connected. -/
  dryRun : Bool := false
  deriving DecidableEq, Repr

namespace SendRequest

def texts (r : SendRequest) : Role → List String
  | .primary => r.primary
  | .cc => r.cc
  | .bcc => r.bcc

def recipients (r : SendRequest) : Recipients :=
  Role.all.foldl (fun given role => (r.texts role).foldl (fun given text => given.add role text) given)
    (.table {})

end SendRequest

inductive Action where
  | send (request : SendRequest)
  /-- Prints the bag of the options. -/
  | properties
  /-- Prints the options. -/
  | options
  /-- Asks the server whether it lets the client in. -/
  | check
  deriving DecidableEq, Repr

structure Sources where
  optionsFile : Option String := none
  /-- Properties that are laid over the others, each as a key, an equals sign and a value. -/
  overrides : List String := []
  deriving DecidableEq, Repr, Inhabited

structure Invocation where
  sources : Sources
  action : Action
  deriving DecidableEq, Repr

end Mailroom.Command
