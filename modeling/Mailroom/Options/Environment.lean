import Mailroom.Options.Bag

/-! Options from the environment. -/
namespace Mailroom.Options

def variableName (name : String) : String := "POSTLINE_MAIL_" ++ name

/-- The key of the time-out under the protocol that is asked for, or under the plain one if that cannot
be read. -/
def environmentTimeoutKey (protocol : Option String) : String :=
  match protocol.map Protocol.parse with
  | some (.ok p) => timeoutKey p
  | _ => timeoutKey .smtp

/-- The keys that variables set, each with the name of its variable. The variables of both protocols are
taken. -/
def environmentKeys (protocol : Option String) : List (String × String) :=
  [ (protocolKey, "TRANSPORT_PROTOCOL"),
    (userKey, "USERNAME"),
    (passwordKey, "PASSWORD"),
    (hostKey .smtp, "SMTP_HOST"),
    (portKey .smtp, "SMTP_PORT"),
    (authKey .smtp, "SMTP_AUTH"),
    (starttlsKey, "SMTP_STARTTLS"),
    (hostKey .smtps, "SMTPS_HOST"),
    (portKey .smtps, "SMTPS_PORT"),
    (authKey .smtps, "SMTPS_AUTH"),
    (environmentTimeoutKey protocol, "TIMEOUT_MS") ]

def environmentBag (lookup : String → Option String) : PropertyBag :=
  let keys := environmentKeys (lookup (variableName "TRANSPORT_PROTOCOL"))
  .ofPairs (keys.filterMap fun (key, name) => (lookup (variableName name)).map (key, ·))

def ofEnvironment (lookup : String → Option String) : Except Error Options :=
  ofBag (environmentBag lookup)

end Mailroom.Options
