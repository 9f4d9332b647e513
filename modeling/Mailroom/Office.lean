import Mailroom.Outbox

/-! Clients that share outboxes, and what can be asked of them. -/
namespace Mailroom

structure Office.Member where
  outbox : Nat
  client : Client (List Outbox)

/-- Outboxes, and the clients that deliver into them. -/
structure Office where
  outboxes : List Outbox
  members : List Office.Member := []

namespace Office

def withOutboxes (count : Nat) : Office := { outboxes := List.replicate count {} }

/-- Delivery into one outbox of several; into one that is not there nothing is delivered. -/
def transport (index : Nat) : Transport (List Outbox) where
  deliver m boxes :=
    match boxes[index]? with
    | none => (.error (.setup "no such outbox"), boxes)
    | some box =>
      let (result, box) := box.deliver m
      (result, boxes.set index box)
  check boxes := (.ok true, boxes)

def addClient (office : Office) (options : Options) (index : Nat) : Except Error Office := do
  let client ← Client.create options (transport index)
  return { office with members := office.members ++ [{ outbox := index, client }] }

def update (office : Office) (index : Nat) (change : Outbox → Outbox) : Office :=
  { office with outboxes := office.outboxes.modify index change }

def act {α : Type} (office : Office)
    (action : List Outbox → Except Error α × List Outbox) : Except Error α × Office :=
  let (result, outboxes) := action office.outboxes
  (result, { office with outboxes })

inductive Step where
  /-- Takes on a client that delivers into an outbox. -/
  | hire (options : Options) (outbox : Nat)
  | send (client : Nat) (sender : String) (recipients : Recipients) (subject text : String)
    (format : BodyFormat)
  | deliver (client : Nat) (m : Message)
  | check (client : Nat)
  /-- Delivers into an outbox without a client. -/
  | drop (outbox : Nat) (m : Message)
  /-- Asks an outbox whether it is there, without a client. -/
  | probe (outbox : Nat)
  | failNext (outbox : Nat) (failure : DeliveryFailure)
  | clear (outbox : Nat)
  deriving DecidableEq, Repr

inductive Answer where
  | done
  | reached (isThere : Bool)
  /-- A client, or the request for one, fails. -/
  | refused (e : Error)
  /-- An outbox fails that was asked without a client. -/
  | undelivered (failure : DeliveryFailure)
  /-- There is no such client or outbox. -/
  | absent
  deriving DecidableEq, Repr

def Answer.ofResult {ε α : Type} (failed : ε → Answer) (succeeded : α → Answer) : Except ε α → Answer
  | .ok a => succeeded a
  | .error e => failed e

def ask {α : Type} (office : Office) (client : Nat) (succeeded : α → Answer)
    (action : Client (List Outbox) → List Outbox → Except Error α × List Outbox) : Answer × Office :=
  match office.members[client]? with
  | none => (.absent, office)
  | some member =>
    let (result, office) := office.act (action member.client)
    (.ofResult .refused succeeded result, office)

def askOutbox {α : Type} (office : Office) (index : Nat) (succeeded : α → Answer)
    (action : List Outbox → Except DeliveryFailure α × List Outbox) : Answer × Office :=
  if index < office.outboxes.length then
    let (result, outboxes) := action office.outboxes
    (.ofResult .undelivered succeeded result, { office with outboxes })
  else (.absent, office)

def step (office : Office) : Step → Answer × Office
  | .hire options index =>
    if index < office.outboxes.length then
      match office.addClient options index with
      | .ok office => (.done, office)
      | .error e => (.refused e, office)
    else (.absent, office)
  | .send client sender recipients subject text format =>
    office.ask client (fun _ => .done) fun c => c.send sender recipients subject text format
  | .deliver client m => office.ask client (fun _ => .done) fun c => c.deliver m
  | .check client => office.ask client .reached Client.check
  | .drop index m => office.askOutbox index (fun _ => .done) ((transport index).deliver m)
  | .probe index => office.askOutbox index .reached (transport index).check
  | .failNext index failure =>
    if index < office.outboxes.length then (.done, office.update index (Outbox.failNext failure))
    else (.absent, office)
  | .clear index =>
    if index < office.outboxes.length then (.done, office.update index Outbox.clear)
    else (.absent, office)

structure Entry where
  step : Step
  answer : Answer
  deriving DecidableEq, Repr

structure Course where
  office : Office
  history : List Entry := []

namespace Course

def take (c : Course) (step : Step) : Course :=
  let (answer, office) := c.office.step step
  { office, history := ⟨step, answer⟩ :: c.history }

def run (count : Nat) (steps : List Step) : Course :=
  steps.foldl take { office := withOutboxes count }

end Course

end Office

end Mailroom
