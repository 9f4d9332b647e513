import Mailroom.Error
import Mailroom.Json.Decode
import Mailroom.Text.Keyword

/-! Protocols of delivery, and how a connection is protected. -/
namespace Mailroom

def protocolKey : String := "mail.transport.protocol"

inductive Protocol where
  /-- Plain, or upgraded to protection after the start. -/
  | smtp
  /-- Protected from the start. -/
  | smtps
  deriving DecidableEq, Repr, Inhabited

namespace Protocol

def name : Protocol → String
  | smtp => "smtp"
  | smtps => "smtps"

def parse (s : String) : Except Error Protocol :=
  match Text.keyword s with
  | "smtp" => .ok smtp
  | "smtps" => .ok smtps
  | other => .error (.invalidProperty protocolKey (.unsupportedProtocol other))

def key (p : Protocol) (field : String) : String := "mail." ++ p.name ++ "." ++ field

def choice : Json.Choice Protocol := [("smtp", smtp), ("smtps", smtps)]

def shown : Protocol → Text.Shown
  | smtp => .atom "Smtp"
  | smtps => .atom "Smtps"

end Protocol

inductive Security where
  | none
  | tls
  | startTls
  deriving DecidableEq, Repr, Inhabited

namespace Security

def displayName : Security → String
  | none => "None (insecure)"
  | tls => "SSL/TLS"
  | startTls => "STARTTLS"

def defaultPort : Security → UInt16
  | none => 25
  | startTls => 587
  | tls => 465

def name : Security → String
  | none => "None"
  | tls => "Tls"
  | startTls => "StartTls"

def choice : Json.Choice Security := [("None", none), ("Tls", tls), ("StartTls", startTls)]

end Security

end Mailroom
