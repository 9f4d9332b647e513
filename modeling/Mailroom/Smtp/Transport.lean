import Mailroom.Client
import Mailroom.Options.Environment
import Mailroom.Smtp.Session

/-! Delivery over a network. -/
namespace Mailroom.Smtp

structure Listener where
  hosts : List String
  port : UInt16
  replies : List (List Char)
  deriving DecidableEq, Repr

/-- A network with at most one server, which takes one connection, and what has happened in it. -/
structure Network where
  listener : Option Listener := none
  /-- The server can begin protection. -/
  canProtect : Bool := false
  /-- The connections that were asked for, in order. -/
  dials : List (String × UInt16) := []
  /-- What has happened on connections, as clients know it, in order. -/
  log : List Event := []
  /-- The lines that the server has heard, in order. -/
  heard : List (List Char) := []
  deriving DecidableEq, Repr, Inhabited

def Network.sent (net : Network) : List Command := net.log.filterMap Event.command?

def Network.exposed (net : Network) : List Command := net.log.filterMap Event.exposed?

structure Caller where
  name : String
  date : String
  deriving DecidableEq, Repr

def Network.scriptAt? (net : Network) (host : String) (port : UInt16) :
    Option (List (List Char)) := do
  let l ← net.listener
  if l.hosts.contains host && l.port == port then some l.replies else none

def upgradeIfAsked (o : Options) (name : String) (c : Capabilities) : Session Capabilities :=
  if o.security = .startTls then Session.upgrade name c else pure c

def credentials? (o : Options) : Option (String × String) :=
  if o.auth then
    match o.user, o.password with
    | some user, some password => some (user, password)
    | _, _ => none
  else none

def logInIfAsked (o : Options) (c : Capabilities) : Session Unit :=
  match credentials? o with
  | some (user, password) => Session.logIn c user password
  | none => pure ()

def enter (o : Options) (caller : Caller) : Session Capabilities := do
  if o.security = .tls then Session.handshake
  let _ ← Session.receive
  let c ← upgradeIfAsked o caller.name (← Session.hello caller.name)
  logInIfAsked o c
  return c

/-- Connects once to the server of the options, and acts there. -/
def converse {α : Type} (o : Options) (caller : Caller) (action : Capabilities → Session α)
    (net : Network) : Except Fault α × Network :=
  let net := { net with dials := net.dials ++ [(o.host, o.port)] }
  match net.scriptAt? o.host o.port with
  | none => (.error .refused, net)
  | some replies =>
    let (result, w) := (enter o caller >>= action).run.run (Wire.connect replies net.canProtect)
    (result, { net with
      listener := none
      log := net.log ++ w.log
      heard := net.heard ++ w.peer.heard })

/-- Delivery to the server of the options. A message that cannot be written down is not delivered, and
nothing is connected for it. -/
def transport (o : Options) (caller : Caller) : Transport Network where
  deliver m net :=
    match Mime.Letter.ofMessage m caller.date with
    | .error f => (.error (.message f.message), net)
    | .ok letter =>
      let (result, net) := converse o caller (Session.deliver letter) net
      (result.mapError Fault.delivery, net)
  check net :=
    let (result, net) := converse o caller Session.probe net
    (result.mapError Fault.delivery, net)

def client (o : Options) (caller : Caller) : Except Error (Client Network) :=
  Client.create o (transport o caller)

inductive OptionsSource where
  | given (o : Options)
  | environment (lookup : String → Option String)

def OptionsSource.options : OptionsSource → Except Error Options
  | given o => .ok o
  | environment lookup => Options.ofEnvironment lookup

def clientOf (source : OptionsSource) (caller : Caller) : Except Error (Client Network) := do
  client (← source.options) caller

def environmentClient (lookup : String → Option String) (caller : Caller) :
    Except Error (Client Network) :=
  clientOf (.environment lookup) caller

def sendOnce (source : OptionsSource) (caller : Caller) (sender : String) (recipients : Recipients)
    (subject text : String) (format : BodyFormat) (net : Network) : Except Error Unit × Network :=
  match clientOf source caller with
  | .error e => (.error e, net)
  | .ok c => c.send sender recipients subject text format net

def shownClient (o : Options) : Text.Shown :=
  .record "MailClient"
    [ ("options", o.shown),
      ("transport", .record "SmtpTransport"
        [("host", .string o.host), ("port", .nat o.port.toNat)] true) ]

end Mailroom.Smtp
