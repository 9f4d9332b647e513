import Mailroom.Delivery
import Mailroom.Mime.Letter
import Mailroom.Smtp.Command
import Mailroom.Smtp.Peer

/-! The conversation of a client with a server. -/
namespace Mailroom.Smtp

inductive Fault where
  | refused
  /-- The server does not speak the language of protection, or, with `silent`, says nothing. -/
  | handshake (silent : Bool)
  | badReply (fault : ReplyFault)
  | rejected (reply : Reply)
  | noServerName
  | noStartTls
  | noMechanism
  | noChallenge
  | badChallenge (fault : Mime.Base64.Fault)
  | challengeText (fault : Text.Utf8Fault)
  | unexpectedChallenge
  | unrecognizedChallenge
  | tooManyChallenges
  | noUtf8
  | noEightBit
  deriving DecidableEq, Repr

namespace Fault

def message : Fault → String
  | refused => "Connection error: Connection refused (os error 111)"
  | handshake true => "Connection error: Connection error: tls handshake eof"
  | handshake false =>
    "Connection error: Connection error: received corrupt message of type InvalidContentType"
  | badReply fault => "response error: " ++ fault.message
  | rejected r =>
    (if r.code < 500 then "transient error (" else "permanent error (") ++ toString r.code ++
      "): " ++ r.text
  | noServerName => "response error: Could not read server name"
  | noStartTls => "internal client error: STARTTLS is not supported on this server"
  | noMechanism => "internal client error: No compatible authentication mechanism was found"
  | noChallenge => "response error: Could not read auth challenge"
  | badChallenge fault => "response error: " ++ fault.message
  | challengeText fault => "response error: " ++ fault.message
  | unexpectedChallenge => "internal client error: This mechanism does not expect a challenge"
  | unrecognizedChallenge => "internal client error: Unrecognized challenge"
  | tooManyChallenges => "response error: Unexpected number of challenges"
  | noUtf8 =>
    "internal client error: Envelope contains non-ascii chars but server does not support SMTPUTF8"
  | noEightBit =>
    "internal client error: Message contains non-ascii chars but server does not support 8BITMIME"

def delivery (f : Fault) : DeliveryFailure :=
  match f with
  | rejected r => .rejected r.code f.message
  | _ => .connection f.message

end Fault

/-- What happens on a connection, as the client knows it. -/
inductive Event where
  /-- The client sends a command, under protection or in the clear. -/
  | sent (command : Command) (isProtected : Bool)
  | got (reply : Reply)
  /-- The client reads what is no reply. -/
  | garbled (fault : ReplyFault)
  deriving DecidableEq, Repr

namespace Event

def ofReading : Except ReplyFault Reply → Event
  | .ok r => got r
  | .error f => garbled f

def command? : Event → Option Command
  | sent c _ => some c
  | _ => none

def exposed? : Event → Option Command
  | sent c false => some c
  | _ => none

@[simp] theorem command?_sent (c : Command) (p : Bool) : (sent c p).command? = some c := rfl

@[simp] theorem exposed?_sent_true (c : Command) : (sent c true).exposed? = none := rfl

@[simp] theorem exposed?_sent_false (c : Command) : (sent c false).exposed? = some c := rfl

@[simp] theorem command?_ofReading (x : Except ReplyFault Reply) : (ofReading x).command? = none := by
  cases x with
  | error f => rfl
  | ok r => rfl

@[simp] theorem exposed?_ofReading (x : Except ReplyFault Reply) : (ofReading x).exposed? = none := by
  cases x with
  | error f => rfl
  | ok r => rfl

end Event

structure Wire where
  peer : Peer
  /-- What the server has sent and the client has not read. -/
  unread : List Char := []
  /-- The server can begin protection. -/
  canProtect : Bool := false
  /-- Protection has begun. -/
  isProtected : Bool := false
  /-- What has happened, in order. -/
  log : List Event := []

def Wire.sent (w : Wire) : List Command := w.log.filterMap Event.command?

def Wire.connect (replies : List (List Char)) (canProtect : Bool) : Wire :=
  let (peer, out) := Peer.reply { replies }
  { peer, unread := out, canProtect }

abbrev Session := ExceptT Fault (StateM Wire)

namespace Session

def send (c : Command) : Session Unit :=
  modify fun w =>
    let (peer, out) := w.peer.hearAll (textLines c.text)
    { w with
      peer
      unread := w.unread ++ out
      log := w.log ++ [.sent c w.isProtected] }

def receive : Session Reply := do
  let (result, unread) := readReply (← get).unread
  modify fun w => { w with unread, log := w.log ++ [.ofReading result] }
  match result with
  | .error f => throw (.badReply f)
  | .ok r => if r.isPositive then return r else throw (.rejected r)

def exchange (c : Command) : Session Reply := do
  send c
  receive

def hangUp : Session Unit := do
  send .quit
  try discard receive catch _ => pure ()

/-- Takes leave if the action fails. -/
def orHangUp {α : Type} (action : Session α) : Session α :=
  tryCatch action fun f => do
    hangUp
    throw f

def hello (name : String) : Session Capabilities := orHangUp do
  let r ← exchange (.hello name)
  match Capabilities.ofReply? r with
  | some c => return c
  | none => throw .noServerName

/-- Begins protection. The text of a server that cannot is no answer in the language of protection. -/
def handshake : Session Unit := do
  let w ← get
  if !w.canProtect then throw (.handshake (w.unread.isEmpty && w.peer.replies.isEmpty))
  modify fun w => { w with isProtected := true }

/-- Asks the server to begin protection, and introduces the client once more; what the server has said of
itself in the clear does not count. -/
def upgrade (name : String) (c : Capabilities) : Session Capabilities := do
  if !c.startTls then throw .noStartTls
  let _ ← orHangUp (exchange .startTls)
  handshake
  hello name

def challengeOf (r : Reply) : Except Fault (List Char) := do
  match r.firstWord? with
  | none => throw .noChallenge
  | some word =>
    let bytes ← (Mime.Base64.decode (Text.utf8 word)).mapError .badChallenge
    (Text.readUtf8 bytes).mapError .challengeText

def userPrompts : List String := ["user name", "username:", "username", "user name\x00"]

def passwordPrompts : List String := ["password", "password:", "password\x00"]

def answerTo (m : Mechanism) (user password : String) (challenge : List Char) :
    Except Fault String :=
  let prompt := String.ofList (challenge.map Char.toLower)
  match m with
  | .plain => .error .unexpectedChallenge
  | .login =>
    if userPrompts.contains prompt then .ok user
    else if passwordPrompts.contains prompt then .ok password
    else .error .unrecognizedChallenge

/-- Answers challenges until the server is satisfied; `left` of them may be answered. -/
def answerChallenges (m : Mechanism) (user password : String) : (left : Nat) → Reply → Session Unit
  | 0, _ => throw .tooManyChallenges
  | left + 1, r =>
    if r.code ≠ 334 then pure ()
    else do
      let text ← MonadExcept.ofExcept (challengeOf r >>= answerTo m user password)
      answerChallenges m user password left (← orHangUp (exchange (.answer text)))

def opening (m : Mechanism) (user password : String) : Command :=
  match m with
  | .plain => .authPlain user password
  | .login => .authLogin

def maxChallenges : Nat := 10

def logIn (c : Capabilities) (user password : String) : Session Unit := do
  match c.preferred? with
  | none => throw .noMechanism
  | some m =>
    let r ← exchange (opening m user password)
    answerChallenges m user password maxChallenges r

def needsUtf8 (letter : Mime.Letter) : Bool :=
  (letter.sender :: letter.recipients).any fun a => !Text.isAscii a.text.toList

def needsEightBit (letter : Mime.Letter) : Bool := !Text.isAscii letter.content

def handOver (letter : Mime.Letter) : Session Unit := do
  let _ ← exchange (.sender letter.sender (needsUtf8 letter) (needsEightBit letter))
  for a in letter.recipients do
    let _ ← exchange (.recipient a)
  let _ ← exchange .data
  let _ ← exchange (.payload letter.content)

def deliver (letter : Mime.Letter) (c : Capabilities) : Session Unit := do
  if needsUtf8 letter && !c.utf8 then throw .noUtf8
  if needsEightBit letter && !c.eightBit then throw .noEightBit
  orHangUp (handOver letter)
  hangUp

def probe (_ : Capabilities) : Session Bool := do
  let there ← try
      let _ ← exchange .noop
      pure true
    catch _ => pure false
  let _ ← orHangUp (exchange .quit)
  return there

end Session

end Mailroom.Smtp
