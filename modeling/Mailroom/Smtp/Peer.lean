import Mailroom.Text.Blank
import Mailroom.Text.Split

/-! A server that follows a script. -/
namespace Mailroom.Smtp

/-- The server replies from a list, whatever it is told, and ends when the list does. -/
structure Peer where
  /-- The replies to come. -/
  replies : List (List Char)
  /-- The lines heard so far. -/
  heard : List (List Char) := []
  /-- A message is under way, which ends with a line of one point. -/
  inMessage : Bool := false
  /-- No reply was left when one was due. -/
  ended : Bool := false
  deriving DecidableEq, Repr

namespace Peer

def reply (p : Peer) : Peer × List Char :=
  match p.replies with
  | [] => ({ p with ended := true }, [])
  | r :: rest => ({ p with replies := rest }, r ++ ['\r', '\n'])

/-- The server is about to hear a message: it has been told so, and agrees. -/
def opensMessage (line reply : List Char) : Bool :=
  line == "DATA".toList && (Text.dropPrefix? "354".toList reply).isSome

def hear (p : Peer) (line : List Char) : Peer × List Char :=
  if p.ended then (p, [])
  else
    let p := { p with heard := p.heard ++ [line] }
    if p.inMessage then
      if line = ['.'] then { p with inMessage := false }.reply else (p, [])
    else
      let (p, out) := p.reply
      ({ p with inMessage := opensMessage line out }, out)

def hearAll (p : Peer) : List (List Char) → Peer × List Char
  | [] => (p, [])
  | line :: r =>
    let (p, out) := p.hear line
    let (p, more) := p.hearAll r
    (p, out ++ more)

end Peer

/-- The lines of a text, each without its line end; every line of the text has one. -/
def textLines (cs : List Char) : List (List Char) :=
  ((Text.splitAt (· == '\n') cs).dropLast).map (Text.stripEnd (· == '\r'))

end Mailroom.Smtp
