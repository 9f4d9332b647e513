import Mailroom.Message.Basic
import Mailroom.Mime.MailboxList
import Mailroom.Mime.Subject
import Mailroom.Mime.TransferEncoding

/-! Messages written down for transfer: an envelope, and the text that it holds. -/
namespace Mailroom.Mime

/-! ### The sender -/

inductive NameStyle where
  | plain
  | quoted
  /-- Quoted, with backslashes inside. -/
  | escaped
  | encoded
  deriving DecidableEq, Repr

def isPlainNameChar (c : Char) : Bool :=
  c.isAlphanum || "!#$&+-.^_`\x7b|\x7d~".toList.contains c

def needsBackslash (c : Char) : Bool := c == '"' || c == '\\'

def nameStyle (name : List Char) : NameStyle :=
  if name.all isPlainNameChar then .plain
  else if name.all fun c => isPlainNameChar c || c == ' ' then .quoted
  else if name.all fun c => isPlainNameChar c || c == ' ' || needsBackslash c then .escaped
  else .encoded

def Writer.foldEscaped (part : List Char) (w : Writer) : List Char → Writer
  | [] => w.fold part.reverse
  | c :: r =>
    if needsBackslash c then foldEscaped [] (((w.fold part.reverse).fold ['\\']).fold [c]) r
    else foldEscaped (c :: part) w r

def Writer.writeName (name : List Char) (w : Writer) : Writer :=
  match nameStyle name with
  | .plain => w.write name
  | .quoted => ((w.write ['"']).fold name).write ['"']
  | .escaped => ((w.write ['"']).foldEscaped [] name).write ['"']
  | .encoded => w.encode name

def senderValue (m : Mailbox) : List Char :=
  let w := Writer.afterName "From"
  match m.name with
  | none => (w.write m.address.text.toList).finish
  | some name =>
    ((w.writeName name.toList).space.write ('<' :: (m.address.text.toList ++ ['>']))).finish

/-- A character of a name that is kept without quotation marks, though a space among them comes between
atoms, and one beyond ASCII will be encoded. -/
def isBareNameChar (c : Char) : Bool :=
  c == '\t' || c == ' ' || c.isAlpha || ('0' ≤ c && c ≤ '8') || 0x80 ≤ c.toNat ||
    "!#$%&'*+-/=?^_`\x7b|\x7d~".toList.contains c

def trimmedName (m : Mailbox) : List Char :=
  Text.strip Text.isBlank (m.name.getD "").toList

def hasUnwritableName (m : Mailbox) : Bool :=
  (trimmedName m).any fun c => c == '\n' || c == '\r'

/-- The mailbox as the envelope is read from it, before characters are encoded. -/
def plainValue (m : Mailbox) : List Char :=
  let address := m.address.text.toList
  match trimmedName m with
  | [] => address
  | name =>
    let written :=
      if name.all isBareNameChar then name
      else
        let quote (c : Char) := if needsBackslash c || c == '\x00' then ['\\', c] else [c]
        '"' :: (name.flatMap quote ++ ['"'])
    written ++ [' ', '<'] ++ address ++ ['>']

/-! ### The recipients -/

def addressList (as : List Address) : List Char :=
  [',', ' '].intercalate (as.map (·.text.toList))

/-- Adds an address to those of a header, which are read back first; where they cannot be read they are
lost. -/
def addToHeader (as : List Address) (a : Address) : List Address :=
  if as.isEmpty then [a]
  else match MailboxList.read? (addressList as) with
    | some as => as ++ [a]
    | none => [a]

def headerAddresses (as : List Address) : List Address :=
  as.foldl addToHeader []

def envelopeAddresses (as : List Address) : List Address :=
  if as.isEmpty then [] else (MailboxList.read? (addressList as)).getD []

/-! ### The letter -/

inductive Fault where
  /-- The name of the sender breaks the line. Printing such a mailbox can stop the whole program without a
  fault; here it is a fault like the others, and its wording is our own. -/
  | unwritableName
  | missingSender
  | missingRecipient
  deriving DecidableEq, Repr

def Fault.message : Fault → String
  | unwritableName => "the name of the sender holds a line break"
  | missingSender => "missing source address, invalid envelope"
  | missingRecipient => "missing destination address, invalid envelope"

structure Letter where
  sender : Address
  recipients : List Address
  /-- Headers, an empty line and the body. -/
  content : List Char
  deriving DecidableEq, Repr

def headerLine (name : String) (value : List Char) : List Char :=
  name.toList ++ [':', ' '] ++ value ++ ['\r', '\n']

def addressLine (name : String) (as : List Address) : List Char :=
  if as.isEmpty then [] else headerLine name (addressList as)

/-- The headers of a message, dated as given. Blind copies have no header. -/
def headers (m : Message) (encoding : TransferEncoding) (date : String) : List Char :=
  headerLine "From" (senderValue m.sender) ++
  headerLine "Subject" (freeText "Subject" m.subject) ++
  addressLine "To" (headerAddresses m.primary) ++
  addressLine "Cc" (headerAddresses m.cc) ++
  headerLine "Content-Type" m.body.format.contentType.toList ++
  headerLine "Content-Transfer-Encoding" encoding.name.toList ++
  headerLine "Date" date.toList

def envelopeSender (m : Mailbox) : Except Fault Address :=
  if hasUnwritableName m then .error .unwritableName
  else match MailboxList.read? (plainValue m) with
    | some [a] => .ok a
    | _ => .error .missingSender

def envelopeRecipients (m : Message) : Except Fault (List Address) :=
  match Role.all.flatMap fun role => envelopeAddresses (headerAddresses (m.recipients role)) with
  | [] => .error .missingRecipient
  | as => .ok as

def Letter.ofMessage (m : Message) (date : String) : Except Fault Letter := do
  let sender ← envelopeSender m.sender
  let recipients ← envelopeRecipients m
  let text := m.body.text.toList
  let encoding := TransferEncoding.choose (Text.utf8 text)
  return {
    sender
    recipients
    content := headers m encoding date ++ ['\r', '\n'] ++ encoding.apply text }

end Mailroom.Mime
