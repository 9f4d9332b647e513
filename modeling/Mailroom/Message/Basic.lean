import Mailroom.Mailbox
import Mailroom.Recipients.Basic
import Mailroom.Text.Shown

/-! Messages that are ready to be delivered. -/
namespace Mailroom

inductive BodyFormat where
  | plain
  | html
  deriving DecidableEq, Repr, Inhabited

namespace BodyFormat

def name : BodyFormat → String
  | plain => "plain"
  | html => "html"

def contentType : BodyFormat → String
  | plain => "text/plain; charset=utf-8"
  | html => "text/html; charset=utf-8"

def parse (s : String) : Except Error BodyFormat :=
  match Text.keyword s with
  | "" | "plain" | "text/plain" => .ok plain
  | "html" | "text/html" => .ok html
  | _ => .error (.unsupportedFormat s)

def choice : Json.Choice BodyFormat := [("plain", plain), ("html", html)]

def shown : BodyFormat → Text.Shown
  | plain => .atom "Plain"
  | html => .atom "Html"

end BodyFormat

structure Body where
  text : String
  format : BodyFormat
  deriving DecidableEq, Repr

structure Message where
  sender : Mailbox
  primary : List Address := []
  cc : List Address := []
  /-- The recipients that no other recipient learns of. -/
  bcc : List Address := []
  subject : String
  body : Body
  deriving DecidableEq, Repr

namespace Message

def recipients (m : Message) : Role → List Address
  | .primary => m.primary
  | .cc => m.cc
  | .bcc => m.bcc

def add (m : Message) (role : Role) (address : Address) : Message :=
  match role with
  | .primary => { m with primary := m.primary ++ [address] }
  | .cc => { m with cc := m.cc ++ [address] }
  | .bcc => { m with bcc := m.bcc ++ [address] }

def allRecipients (m : Message) : List Address := m.primary ++ m.cc ++ m.bcc

/-- The number of recipients; one who is named twice counts twice. -/
def recipientCount (m : Message) : Nat := m.primary.length + m.cc.length + m.bcc.length

def addTexts (m : Message) (role : Role) (texts : List String) : Except Error Message :=
  texts.foldlM (fun m text => do
    return m.add role (← (Address.parse text).mapError .invalidAddress)) m

/-- A message from what is given: the sender and every recipient must be addresses, and at least one
recipient must be left once blank ones are dropped. -/
def compose (sender : String) (recipients : Recipients) (subject text : String)
    (format : BodyFormat) : Except Error Message := do
  let sender ← (Mailbox.parse sender).mapError .invalidAddress
  let m ← Role.all.foldlM (fun m role => addTexts m role (recipients.addresses role))
    ({ sender, subject, body := ⟨text, format⟩ } : Message)
  if m.allRecipients.isEmpty then throw .noRecipients
  return m

def shown (m : Message) : Text.Shown :=
  let address (a : Address) : Text.Shown := .tuple "Address" [.string a.text]
  .record "OutgoingMessage"
    [ ("from", .record "Mailbox"
        [("name", .option .string m.sender.name), ("address", address m.sender.address)]),
      ("to", .list (m.primary.map address)),
      ("cc", .list (m.cc.map address)),
      ("bcc", .list (m.bcc.map address)),
      ("subject", .string m.subject),
      ("body", .record "Body" [("text", .string m.body.text), ("subtype", m.body.format.shown)]) ]

end Message

end Mailroom
