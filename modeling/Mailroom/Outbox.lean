import Mailroom.Client

/-! Delivery into memory. -/
namespace Mailroom

structure Outbox where
  /-- The messages delivered, the first one first. -/
  sent : List Message := []
  /-- The failure that waits for the next delivery. -/
  pending : Option DeliveryFailure := none
  deriving DecidableEq, Repr, Inhabited

namespace Outbox

/-- Keeps the message, or fails once with the failure that waits. -/
def deliver (m : Message) (box : Outbox) : Except DeliveryFailure Unit × Outbox :=
  match box.pending with
  | some failure => (.error failure, { box with pending := none })
  | none => (.ok (), { box with sent := box.sent ++ [m] })

def failNext (failure : DeliveryFailure) (box : Outbox) : Outbox :=
  { box with pending := some failure }

def clear (box : Outbox) : Outbox := { box with sent := [] }

def last? (box : Outbox) : Option Message := box.sent.getLast?

def transport : Transport Outbox where
  deliver := deliver
  check box := (.ok true, box)

end Outbox

end Mailroom
