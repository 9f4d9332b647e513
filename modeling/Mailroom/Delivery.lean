import Mailroom.Text.Shown

/-! How a delivery fails. -/
namespace Mailroom

inductive DeliveryFailure where
  /-- The means of delivery cannot be set up. -/
  | setup (detail : String)
  /-- The other side cannot be reached, or does not keep to the protocol. -/
  | connection (detail : String)
  /-- The other side refuses with a code. -/
  | rejected (code : Nat) (detail : String)
  /-- The message cannot be written down. -/
  | message (detail : String)
  deriving DecidableEq, Repr

namespace DeliveryFailure

def text : DeliveryFailure → String
  | setup detail => "Transport setup failed: " ++ detail
  | connection detail => "Connection failed: " ++ detail
  | rejected code detail => "Server rejected message (" ++ toString code ++ "): " ++ detail
  | message detail => "Message could not be built: " ++ detail

def isPermanent : DeliveryFailure → Bool
  | rejected code _ => 500 ≤ code && code < 600
  | _ => false

def isTransient : DeliveryFailure → Bool
  | rejected code _ => 400 ≤ code && code < 500
  | _ => false

def shown : DeliveryFailure → Text.Shown
  | setup detail => .tuple "Build" [.string detail]
  | connection detail => .tuple "Connection" [.string detail]
  | rejected code detail => .record "Rejected" [("code", .nat code), ("message", .string detail)]
  | message detail => .tuple "Message" [.string detail]

end DeliveryFailure

end Mailroom
