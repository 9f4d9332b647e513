import Mailroom.Options.Basic

/-! Options as bags of properties. -/
namespace Mailroom.Options

def userKey : String := "mail.user"

def passwordKey : String := "mail.password"

def hostKey (p : Protocol) : String := p.key "host"

def portKey (p : Protocol) : String := p.key "port"

def authKey (p : Protocol) : String := p.key "auth"

def timeoutKey (p : Protocol) : String := p.key "connectiontimeout"

/-- The upgrade of a connection is a property of the plain protocol only. -/
def starttlsKey : String := Protocol.smtp.key "starttls.enable"

def recognizedKeys (p : Protocol) : List String :=
  [protocolKey, hostKey p, authKey p] ++
    (match p with
    | .smtp => [starttlsKey]
    | .smtps => []) ++
    [userKey, passwordKey, timeoutKey p, portKey p]

def readBool? (s : String) : Option Bool :=
  match Text.lowerAscii s with
  | "true" | "yes" | "on" | "1" => some true
  | "false" | "no" | "off" | "0" => some false
  | _ => none

def readPort? (s : String) : Option UInt16 :=
  (Decimal.readUnsigned? Decimal.maxWord16 s.toList).map UInt16.ofNat

def readMillis? (s : String) : Option Duration :=
  (Decimal.readUnsigned? Decimal.maxWord64 s.toList).map .ofMillis

def nonEmpty? (bag : PropertyBag) (key : String) : Option String :=
  (bag.get? key).filter fun s => !s.isEmpty

def readKey {α : Type} (bag : PropertyBag) (key : String) (read? : String → Option α) :
    Except Error (Option α) :=
  match nonEmpty? bag key with
  | none => .ok none
  | some text =>
    match read? text with
    | some x => .ok (some x)
    | none => .error (.invalidProperty key (.unreadable text))

/-- Reads the protocol; a value that is there must name one, be it empty or not. -/
def readProtocol (bag : PropertyBag) : Except Error Protocol :=
  match bag.get? protocolKey with
  | none => .ok .smtp
  | some text => Protocol.parse text

/-- The options that a bag stands for. Keys that are missing or empty mean the default, and keys that
are not recognized are kept as they are. -/
def ofBag (bag : PropertyBag) : Except Error Options := do
  let protocol ← readProtocol bag
  let auth ← readKey bag (authKey protocol) readBool?
  let starttls ← match protocol with
    | .smtp => readKey bag starttlsKey readBool?
    | .smtps => pure none
  let timeout ← readKey bag (timeoutKey protocol) readMillis?
  let port ← readKey bag (portKey protocol) readPort?
  let starttls := starttls.getD false
  return {
    protocol
    host := (nonEmpty? bag (hostKey protocol)).getD defaultHost
    port := port.getD (securityOf protocol starttls).defaultPort
    starttls
    auth := auth.getD false
    user := nonEmpty? bag userKey
    password := nonEmpty? bag passwordKey
    timeout := timeout.getD defaultTimeout
    extra := (recognizedKeys protocol).foldl PropertyBag.erase bag }

def ofJson (v : Json) : Except Error Options := do
  ofBag (← (PropertyBag.ofJson v).mapError .invalidProperties)

def boolText (b : Bool) : String := if b then "true" else "false"

def settings (o : Options) : List (String × String) :=
  [ (protocolKey, o.protocol.name),
    (hostKey o.protocol, o.host),
    (portKey o.protocol, toString o.port.toNat),
    (authKey o.protocol, boolText o.auth) ] ++
  (match o.protocol with
    | .smtp => [(starttlsKey, boolText o.starttls)]
    | .smtps => []) ++
  [(timeoutKey o.protocol, toString o.timeout.millis)] ++
  (o.user.map (userKey, ·)).toList ++
  (o.password.map (passwordKey, ·)).toList

/-- The bag that stands for options: what they set, over the properties that were kept. -/
def toBag (o : Options) : PropertyBag :=
  o.settings.foldl (fun bag (key, value) => bag.setIfNamed key value) o.extra

end Mailroom.Options
