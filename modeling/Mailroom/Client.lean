import Mailroom.Message.Basic
import Mailroom.Options.Basic

/-! Clients: options that have been checked, and a way of delivery. -/
namespace Mailroom

/-- A way to deliver messages that acts on a state `σ`. -/
structure Transport (σ : Type) where
  /-- Hands over a message, once. -/
  deliver : Message → σ → Except DeliveryFailure Unit × σ
  /-- Whether the other side is there and lets the client in. -/
  check : σ → Except DeliveryFailure Bool × σ

structure Client (σ : Type) where
  options : Options
  transport : Transport σ

namespace Client

variable {σ : Type}

def create (options : Options) (transport : Transport σ) : Except Error (Client σ) := do
  options.validate
  return { options, transport }

def deliver (c : Client σ) (m : Message) (s : σ) : Except Error Unit × σ :=
  if m.allRecipients.isEmpty then (.error .noRecipients, s)
  else
    let (result, s) := c.transport.deliver m s
    (result.mapError .delivery, s)

def send (c : Client σ) (sender : String) (recipients : Recipients) (subject text : String)
    (format : BodyFormat) (s : σ) : Except Error Unit × σ :=
  match Message.compose sender recipients subject text format with
  | .error e => (.error e, s)
  | .ok m => c.deliver m s

/-- Whether the other side is there and lets the client in. -/
def check (c : Client σ) (s : σ) : Except Error Bool × σ :=
  let (result, s) := c.transport.check s
  (result.mapError .delivery, s)

end Client

end Mailroom
