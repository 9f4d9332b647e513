import Mailroom.Address.Basic
import Mailroom.Mime.Base64
import Mailroom.Smtp.Capabilities

/-! What a client sends. -/
namespace Mailroom.Smtp

inductive Command where
  | hello (name : String)
  | startTls
  | authPlain (user password : String)
  | authLogin
  /-- The answer to a challenge. -/
  | answer (text : String)
  | sender (address : Address) (utf8 eightBit : Bool)
  | recipient (address : Address)
  | data
  /-- A message, as it is before points are doubled. -/
  | payload (content : List Char)
  | noop
  | quit
  deriving DecidableEq, Repr

/-- Where a text stands with regard to the beginning of lines. -/
inductive LinePlace where
  | start
  | afterReturn
  | inside
  deriving DecidableEq, Repr

/-- Doubles every point that begins a line. -/
def doublePoints (place : LinePlace) : List Char → List Char
  | [] => []
  | '\r' :: r => '\r' :: doublePoints .afterReturn r
  | '\n' :: r =>
    '\n' :: doublePoints (if place = .afterReturn then .start else .inside) r
  | '.' :: r =>
    if place = .start then '.' :: '.' :: doublePoints .inside r
    else '.' :: doublePoints .inside r
  | c :: r => c :: doublePoints .inside r

namespace Command

def plainCredentials (user password : String) : List Char :=
  '\x00' :: (user.toList ++ '\x00' :: password.toList)

def line : Command → List Char
  | hello name => "EHLO ".toList ++ name.toList
  | startTls => "STARTTLS".toList
  | authPlain user password =>
    "AUTH PLAIN ".toList ++ Mime.Base64.encodeText (plainCredentials user password)
  | authLogin => "AUTH LOGIN".toList
  | answer text => Mime.Base64.encodeText text.toList
  | sender address utf8 eightBit =>
    "MAIL FROM:<".toList ++ address.text.toList ++ ['>'] ++
      (if utf8 then " SMTPUTF8".toList else []) ++
      (if eightBit then " BODY=8BITMIME".toList else [])
  | recipient address => "RCPT TO:<".toList ++ address.text.toList ++ ['>']
  | data => "DATA".toList
  | payload content => doublePoints .start content ++ "\r\n.".toList
  | noop => "NOOP".toList
  | quit => "QUIT".toList

def text (c : Command) : List Char := c.line ++ ['\r', '\n']

end Command

end Mailroom.Smtp
