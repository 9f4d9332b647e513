import Mailroom.Smtp.Reply

/-! What a server says that it can do. -/
namespace Mailroom.Smtp

inductive Mechanism where
  | plain
  | login
  deriving DecidableEq, Repr

def Mechanism.name : Mechanism → String
  | plain => "PLAIN"
  | login => "LOGIN"

structure Capabilities where
  /-- Messages may hold bytes beyond ASCII. -/
  eightBit : Bool := false
  /-- Addresses may hold characters beyond ASCII. -/
  utf8 : Bool := false
  startTls : Bool := false
  mechanisms : List Mechanism := []
  deriving DecidableEq, Repr

namespace Capabilities

def mechanism? (word : List Char) : Option Mechanism :=
  [Mechanism.plain, .login].find? fun m => m.name.toList == word

def addLine (c : Capabilities) (line : List Char) : Capabilities :=
  match Reply.lineWords line with
  | [] => c
  | keyword :: rest =>
    if keyword = "8BITMIME".toList then { c with eightBit := true }
    else if keyword = "SMTPUTF8".toList then { c with utf8 := true }
    else if keyword = "STARTTLS".toList then { c with startTls := true }
    else if keyword = "AUTH".toList then
      { c with mechanisms := c.mechanisms ++ rest.filterMap mechanism? }
    else c

/-- What a reply to the greeting says; it must begin with the name of the server. -/
def ofReply? (r : Reply) : Option Capabilities := do
  let _ ← r.firstWord?
  return r.lines.foldl addLine {}

/-- The mechanism to use: the plain one before the other. -/
def preferred? (c : Capabilities) : Option Mechanism :=
  [Mechanism.plain, .login].find? c.mechanisms.contains

end Capabilities

end Mailroom.Smtp
