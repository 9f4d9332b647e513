import Mailroom.Error
import Mailroom.Json.Decode
import Mailroom.Text.Keyword

/-! The roles in which a message is addressed. -/
namespace Mailroom

inductive Role where
  | primary
  | cc
  | bcc
  deriving DecidableEq, Repr, Inhabited

namespace Role

def all : List Role := [primary, cc, bcc]

def name : Role → String
  | primary => "to"
  | cc => "cc"
  | bcc => "bcc"

def parse (s : String) : Except Error Role :=
  match Text.keyword s with
  | "to" => .ok primary
  | "cc" => .ok cc
  | "bcc" => .ok bcc
  | _ => .error (.unknownRole s)

def index : Role → Nat
  | primary => 0
  | cc => 1
  | bcc => 2

def choice : Json.Choice Role := [("to", primary), ("cc", cc), ("bcc", bcc)]

def shown : Role → Text.Shown
  | primary => .atom "To"
  | cc => .atom "Cc"
  | bcc => .atom "Bcc"

end Role

end Mailroom
