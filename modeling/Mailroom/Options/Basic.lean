import Mailroom.Duration
import Mailroom.Options.Protocol
import Mailroom.Properties.Json

/-! The options of a client. -/
namespace Mailroom

structure Options where
  protocol : Protocol
  host : String
  port : UInt16
  /-- The connection is upgraded to protection, if the protocol is not protected from the start. -/
  starttls : Bool
  /-- The client logs in. -/
  auth : Bool
  user : Option String
  password : Option String
  timeout : Duration
  /-- The properties that are not read. -/
  extra : PropertyBag
  deriving DecidableEq, Repr

namespace Options

def defaultHost : String := "localhost"

def defaultTimeout : Duration := .ofSeconds 60

/-- The protection that a protocol and the request for an upgrade amount to. -/
def securityOf : Protocol → (starttls : Bool) → Security
  | .smtps, _ => .tls
  | .smtp, true => .startTls
  | .smtp, false => .none

def security (o : Options) : Security := securityOf o.protocol o.starttls

instance : Inhabited Options where
  default :=
    { protocol := .smtp
      host := defaultHost
      port := Security.none.defaultPort
      starttls := false
      auth := false
      user := none
      password := none
      timeout := defaultTimeout
      extra := .empty }

def problems (o : Options) : List Problem :=
  (if Text.isAllBlank o.host then [.emptyHost] else []) ++
  (if o.port = 0 then [.invalidPort] else []) ++
  (if o.timeout.millis = 0 then [.zeroTimeout]
    else if o.timeout.roundUp ≠ o.timeout then [.invalidTimeout] else []) ++
  if o.auth then
    (if o.user.all Text.isAllBlank then [.missingUser] else []) ++
    (if o.password.all String.isEmpty then [.missingPassword] else [])
  else []

def validate (o : Options) : Except Error Unit :=
  match o.problems with
  | [] => .ok ()
  | problems => .error (.configuration problems)

/-- The options as they are shown, with the password covered. -/
def shown (o : Options) : Text.Shown :=
  .record "MailClientOptions"
    [ ("protocol", o.protocol.shown),
      ("host", .string o.host),
      ("port", .nat o.port.toNat),
      ("starttls", .bool o.starttls),
      ("auth", .bool o.auth),
      ("user", .option .string o.user),
      ("password", .option (fun _ => .string "***") o.password),
      ("timeout", .atom o.timeout.text),
      ("extra", o.extra.shown) ]

end Options

end Mailroom
