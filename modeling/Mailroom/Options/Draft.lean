import Mailroom.Options.Basic

/-! Options under construction. -/
namespace Mailroom.Options

/-- What has been asked for so far; the rest is left to defaults until the draft is finished. -/
structure Draft where
  protocol : Protocol := .smtp
  host : String
  port : Option UInt16 := none
  starttls : Bool := false
  credentials : Option (String × String) := none
  timeout : Duration := defaultTimeout
  extra : PropertyBag := .empty
  deriving DecidableEq, Repr

namespace Draft

def forHost (host : String) : Draft := { host }

def withProtocol (d : Draft) (protocol : Protocol) : Draft := { d with protocol }

def withPort (d : Draft) (port : UInt16) : Draft := { d with port := some port }

def withStarttls (d : Draft) (starttls : Bool) : Draft := { d with starttls }

def withCredentials (d : Draft) (user password : String) : Draft :=
  { d with credentials := some (user, password) }

/-- A time-out is kept in whole milliseconds, rounded up. -/
def withTimeout (d : Draft) (timeout : Duration) : Draft := { d with timeout := timeout.roundUp }

/-- A property that is not read; a blank key is passed over. -/
def withProperty (d : Draft) (key value : String) : Draft :=
  { d with extra := d.extra.setIfNamed key value }

inductive Request where
  | protocol (p : Protocol)
  | port (n : UInt16)
  | starttls (enabled : Bool)
  | credentials (user password : String)
  | timeout (t : Duration)
  | property (key value : String)
  deriving DecidableEq, Repr

def take (d : Draft) : Request → Draft
  | .protocol p => d.withProtocol p
  | .port n => d.withPort n
  | .starttls enabled => d.withStarttls enabled
  | .credentials user password => d.withCredentials user password
  | .timeout t => d.withTimeout t
  | .property key value => d.withProperty key value

def ofRequests (host : String) (requests : List Request) : Draft :=
  requests.foldl take (forHost host)

/-- The options; a port that was not asked for follows the protection. -/
def finish (d : Draft) : Options :=
  let starttls := d.starttls && d.protocol == .smtp
  { protocol := d.protocol
    host := d.host
    port := d.port.getD (securityOf d.protocol starttls).defaultPort
    starttls
    auth := d.credentials.isSome
    user := d.credentials.map (·.1)
    password := d.credentials.map (·.2)
    timeout := d.timeout
    extra := d.extra }

end Draft

end Mailroom.Options
