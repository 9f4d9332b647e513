import Mailroom.Office
import Mailroom.Proofs.Client
import Mailroom.Proofs.Message.Composed

/-! What one request does to an office. -/
namespace Mailroom

/-- A delivery keeps what was there, and adds at most the message. -/
theorem Outbox.sent_deliver (m : Message) (box : Outbox) :
    ∃ ms, (box.deliver m).2.sent = box.sent ++ ms ∧ ∀ m' ∈ ms, m' = m := by
  unfold Outbox.deliver
  split
  · exact ⟨[], (List.append_nil _).symm, nofun⟩
  · exact ⟨[m], rfl, fun m' hm' => List.mem_singleton.1 hm'⟩

namespace Office

def clients (office : Office) : List (Options × Nat) :=
  office.members.map fun member => (member.client.options, member.outbox)

def Step.client? : Step → Option Nat
  | .send client .. | .deliver client _ | .check client => some client
  | _ => none

def Step.outbox? (clients : List (Options × Nat)) : Step → Option Nat
  | .send client .. | .deliver client _ | .check client => clients[client]?.map Prod.snd
  | .drop index _ | .probe index | .failNext index _ | .clear index => some index
  | .hire .. => none

/-- The message that a request brings to an outbox: a client passes on what composes and has a recipient. -/
def Step.message? : Step → Option Message
  | .send _ sender recipients subject text format =>
    (Message.compose sender recipients subject text format).toOption
  | .deliver _ m => if m.allRecipients.isEmpty then none else some m
  | .drop _ m => some m
  | _ => none

def Answer.failure? : Answer → Option DeliveryFailure
  | .refused (.delivery failure) | .undelivered failure => some failure
  | _ => none

def Entry.hired? : Entry → Option (Options × Nat)
  | ⟨.hire options index, .done⟩ => some (options, index)
  | _ => none

private theorem hired?_of_addressed {s : Step} {clients : List (Options × Nat)} {i : Nat}
    (h : s.outbox? clients = some i) (answer : Answer) : Entry.hired? ⟨s, answer⟩ = none := by
  cases s with
  | hire o j => cases h
  | _ => rfl

private theorem hired?_of_undone {answer : Answer} (h : answer ≠ .done) (s : Step) :
    Entry.hired? ⟨s, answer⟩ = none := by
  cases s with
  | hire o i =>
    cases answer with
    | done => exact absurd rfl h
    | _ => rfl
  | _ => rfl

private theorem ofResult_mapError {ε ε' α : Type} {failed : ε' → Answer} {succeeded : α → Answer}
    (f : ε → ε') (x : Except ε α) : Answer.ofResult failed succeeded (x.mapError f) =
      Answer.ofResult (fun e => failed (f e)) succeeded x := by
  cases x <;> rfl

def IsSound (office : Office) : Prop :=
  ∀ member ∈ office.members, member.client.transport = transport member.outbox ∧
    member.outbox < office.outboxes.length

/-- What answering a request can come to. -/
inductive Does (office : Office) (s : Step) : Answer × Office → Prop
  /-- A message comes to an outbox, and whoever sent it hears what the outbox has to say. -/
  | brings {i : Nat} {m : Message} {box : Outbox} {answer : Answer}
      (haddressed : s.outbox? office.clients = some i) (hbox : office.outboxes[i]? = some box)
      (hm : s.message? = some m) (hfailure : answer.failure? = box.pending)
      (hdone : box.pending = none → answer = .done) :
      Does office s (answer, office.update i fun box => (box.deliver m).2)
  | hires {o : Options} {i : Nat} (hs : s = .hire o i) (hi : i < office.outboxes.length) :
      Does office s (.done,
        { office with members := office.members ++ [⟨i, { options := o, transport := transport i }⟩] })
  | primes {i : Nat} {failure : DeliveryFailure} (hs : s = .failNext i failure)
      (hi : i < office.outboxes.length) :
      Does office s (.done, office.update i (Outbox.failNext failure))
  | clears {i : Nat} (hs : s = .clear i) (hi : i < office.outboxes.length) :
      Does office s (.done, office.update i Outbox.clear)
  /-- Nothing happens. -/
  | idles {answer : Answer} (hdone : answer ≠ .done) (hfailure : answer.failure? = none)
      (hs : ∀ i < office.outboxes.length, s.outbox? office.clients = some i →
        s.message? = none ∧ s ≠ .clear i ∧ ∀ failure, s ≠ .failNext i failure) :
      Does office s (answer, office)

theorem deliver_transport {boxes : List Outbox} {i : Nat} {box : Outbox} (h : boxes[i]? = some box)
    (m : Message) : (transport i).deliver m boxes =
      ((box.deliver m).1, boxes.modify i fun box => (box.deliver m).2) := by
  have hset : boxes.set i (box.deliver m).2 = boxes.modify i fun box => (box.deliver m).2 := by
    apply List.ext_getElem?
    intro j
    obtain ⟨hi, hbox⟩ := List.getElem?_eq_some_iff.1 h
    rw [List.getElem?_set, List.getElem?_modify]
    split
    · next hij => simp [← hij, hi, hbox]
    · simp
  simp [transport, h, hset]

section
variable {office : Office} {s : Step}

private theorem ask_of_absent {α : Type} {k : Nat} (h : office.members[k]? = none)
    (succeeded : α → Answer)
    (action : Client (List Outbox) → List Outbox → Except Error α × List Outbox) :
    office.ask k succeeded action = (.absent, office) := by
  simp [ask, h]

private theorem ask_of_present {α : Type} {k : Nat} {member : Member}
    (h : office.members[k]? = some member) (succeeded : α → Answer)
    (action : Client (List Outbox) → List Outbox → Except Error α × List Outbox) :
    office.ask k succeeded action =
      (.ofResult .refused succeeded (action member.client office.outboxes).1,
        { office with outboxes := (action member.client office.outboxes).2 }) := by
  simp [ask, h, act]

/-- A message for an outbox that is there is answered by that outbox. -/
private theorem does_of_message {i : Nat} {m : Message} {box : Outbox}
    (failed : DeliveryFailure → Answer)
    (haddressed : s.outbox? office.clients = some i) (hbox : office.outboxes[i]? = some box)
    (hm : s.message? = some m) (hfailed : ∀ failure, (failed failure).failure? = some failure) :
    Does office s (.ofResult failed (fun _ => .done) ((transport i).deliver m office.outboxes).1,
      { office with outboxes := ((transport i).deliver m office.outboxes).2 }) := by
  rw [deliver_transport hbox]
  refine .brings haddressed hbox hm ?_ ?_
  · cases hpending : box.pending with
    | none => simp [Outbox.deliver, hpending, Answer.ofResult, Answer.failure?]
    | some failure => simp [Outbox.deliver, hpending, Answer.ofResult, hfailed]
  · intro hpending
    simp [Outbox.deliver, hpending, Answer.ofResult]

/-- A request to an outbox that is not there changes nothing. -/
private theorem does_of_no_outbox {i : Nat} (haddressed : s.outbox? office.clients = some i)
    (hi : ¬i < office.outboxes.length) : Does office s (.absent, office) := by
  refine .idles nofun rfl ?_
  intro j hj hother
  obtain rfl := Option.some.inj (haddressed.symm.trans hother)
  exact absurd hj hi

section
variable {k : Nat} (hs : s.client? = some k)
include hs

private theorem Step.outbox?_of_client (clients : List (Options × Nat)) :
    s.outbox? clients = clients[k]?.map Prod.snd := by
  cases s <;> cases hs <;> rfl

/-- A request to a client that brings no message to an outbox changes nothing. -/
private theorem does_of_no_message {answer : Answer} (hdone : answer ≠ .done)
    (hfailure : answer.failure? = none) (hm : s.message? = none) : Does office s (answer, office) := by
  refine .idles hdone hfailure fun i _ _ => ⟨hm, ?_, ?_⟩
  · rintro rfl
    cases hs
  · rintro failure rfl
    cases hs

/-- A request to a client that is not there changes nothing. -/
private theorem does_of_no_member {α : Type} (h : office.members[k]? = none)
    (succeeded : α → Answer)
    (action : Client (List Outbox) → List Outbox → Except Error α × List Outbox) :
    Does office s (office.ask k succeeded action) := by
  rw [ask_of_absent h]
  refine .idles nofun rfl fun i _ haddressed => ?_
  have hclient : office.clients[k]? = none := by simpa [clients] using h
  rw [Step.outbox?_of_client hs, hclient] at haddressed
  cases haddressed

/-- A client that is given a message passes it on, if it has a recipient. -/
private theorem does_of_given {m : Message} {member : Member} (hoffice : office.IsSound)
    (hmember : office.members[k]? = some member)
    (hm : s.message? = if m.allRecipients.isEmpty then none else some m) :
    Does office s (office.ask k (fun _ => .done) fun c => c.deliver m) := by
  obtain ⟨htransport, hi⟩ := hoffice member (List.mem_of_getElem? hmember)
  rw [ask_of_present hmember]
  cases hrecipients : m.allRecipients.isEmpty with
  | true =>
    simp only [Client.deliver, hrecipients, if_true]
    exact does_of_no_message hs nofun rfl (by simpa [hrecipients] using hm)
  | false =>
    have haddressed : s.outbox? office.clients = some member.outbox := by
      simp [Step.outbox?_of_client hs, clients, hmember]
    have hdoes := does_of_message (fun failure => .refused (.delivery failure)) haddressed
      (List.getElem?_eq_getElem hi) (by simpa [hrecipients] using hm) fun _ => rfl
    simp only [Client.deliver, hrecipients, Bool.false_eq_true, if_false, htransport]
    rwa [ofResult_mapError]

end

theorem addClient_eq_ok_iff {o : Options} {i : Nat} {office' : Office} :
    office.addClient o i = .ok office' ↔ o.problems = [] ∧ office' =
      { office with members := office.members ++ [⟨i, { options := o, transport := transport i }⟩] } := by
  simp only [addClient, bind_eq_ok_iff, Client.create_eq_ok_iff, pure_eq_ok_iff]
  constructor
  · rintro ⟨c, ⟨hproblems, rfl⟩, rfl⟩
    exact ⟨hproblems, rfl⟩
  · rintro ⟨hproblems, rfl⟩
    exact ⟨_, ⟨hproblems, rfl⟩, rfl⟩

theorem does_hire (o : Options) (i : Nat) : Does office (.hire o i) (office.step (.hire o i)) := by
  rw [step]
  split
  · next hi =>
    cases hhired : office.addClient o i with
    | ok hired =>
      obtain ⟨-, rfl⟩ := addClient_eq_ok_iff.1 hhired
      exact .hires rfl hi
    | error e =>
      obtain rfl := Client.failsOnly_create.bind (fun _ => failsOnly_ok _) e hhired
      exact .idles nofun rfl nofun
  · exact .idles nofun rfl nofun

/-- A client is taken on if it has an outbox and its options are without problems. -/
theorem step_hire_eq_done_iff (office : Office) (o : Options) (i : Nat) :
    (office.step (.hire o i)).1 = .done ↔ i < office.outboxes.length ∧ o.problems = [] := by
  rw [step]
  split
  · next hi =>
    cases hhired : office.addClient o i with
    | ok hired => simp [hi, (addClient_eq_ok_iff.1 hhired).1]
    | error e =>
      have hproblems : o.problems ≠ [] := fun hnone =>
        nomatch hhired.symm.trans (addClient_eq_ok_iff.2 ⟨hnone, rfl⟩)
      simp [hproblems]
  · next hi => simp [hi]

theorem does_send (hoffice : office.IsSound) (k : Nat) (sender : String) (recipients : Recipients)
    (subject text : String) (format : BodyFormat) :
    Does office (.send k sender recipients subject text format)
      (office.step (.send k sender recipients subject text format)) := by
  rw [step]
  cases hmember : office.members[k]? with
  | none => exact does_of_no_member rfl hmember _ _
  | some member =>
    cases hcompose : Message.compose sender recipients subject text format with
    | error e =>
      rw [ask_of_present hmember]
      simp only [Client.send, hcompose]
      refine does_of_no_message rfl nofun ?_ (by simp [Step.message?, hcompose, Except.toOption])
      rcases Message.failsOnly_compose _ _ _ _ _ e hcompose with rfl | ⟨refusal, rfl⟩ <;> rfl
    | ok m =>
      -- what composes has a recipient, so the client does not stand in its way
      have hrecipients := (Message.wellFormed_of_compose hcompose).2
      have hgiven := does_of_given (s := .send k sender recipients subject text format) rfl hoffice
        hmember (m := m) (by simp [Step.message?, hcompose, Except.toOption, hrecipients])
      simpa only [ask_of_present hmember, Client.send, hcompose] using hgiven

theorem does_check (hoffice : office.IsSound) (k : Nat) :
    Does office (.check k) (office.step (.check k)) := by
  rw [step]
  cases hmember : office.members[k]? with
  | none => exact does_of_no_member rfl hmember _ _
  | some member =>
    obtain ⟨htransport, -⟩ := hoffice member (List.mem_of_getElem? hmember)
    rw [ask_of_present hmember]
    simp only [Client.check, htransport]
    exact does_of_no_message rfl nofun rfl rfl

/-- Every request does one of these things. -/
theorem does_step (hoffice : office.IsSound) (s : Step) : Does office s (office.step s) := by
  cases s with
  | hire o i => exact does_hire o i
  | send k sender recipients subject text format => exact does_send hoffice ..
  | deliver k m =>
    rw [step]
    cases hmember : office.members[k]? with
    | none => exact does_of_no_member rfl hmember _ _
    | some member => exact does_of_given rfl hoffice hmember rfl
  | check k => exact does_check hoffice k
  | drop i m =>
    rw [step, askOutbox]
    split
    · next hi => exact does_of_message _ rfl (List.getElem?_eq_getElem hi) rfl fun _ => rfl
    · next hi => exact does_of_no_outbox rfl hi
  | probe i =>
    rw [step, askOutbox]
    split
    · next hi => exact .idles nofun rfl fun _ _ _ => ⟨rfl, nofun, nofun⟩
    · next hi => exact does_of_no_outbox rfl hi
  | failNext i failure =>
    rw [step]
    split
    · next hi => exact .primes rfl hi
    · next hi => exact does_of_no_outbox rfl hi
  | clear i =>
    rw [step]
    split
    · next hi => exact .clears rfl hi
    · next hi => exact does_of_no_outbox rfl hi

namespace Does

variable {result : Answer × Office}

/-- The clients that are there remain as they are. -/
theorem members_prefix (h : Does office s result) : office.members <+: result.2.members := by
  cases h with
  | hires hs hi => exact List.prefix_append _ _
  | _ => exact List.prefix_rfl

/-- Another outbox than the one to which the request is addressed remains as it is. -/
theorem elsewhere {i : Nat} (h : Does office s result) (hi : s.outbox? office.clients ≠ some i) :
    result.2.outboxes[i]? = office.outboxes[i]? := by
  cases h with
  | brings haddressed => exact List.getElem?_modify_ne _ _ fun hij => hi (hij ▸ haddressed)
  | hires => rfl
  | primes hs => exact List.getElem?_modify_ne _ _ fun hij => hi (by rw [hs, ← hij]; rfl)
  | clears hs => exact List.getElem?_modify_ne _ _ fun hij => hi (by rw [hs, ← hij]; rfl)
  | idles => rfl

theorem clients_eq (h : Does office s result) :
    result.2.clients = office.clients ++ (Entry.hired? ⟨s, result.1⟩).toList := by
  cases h with
  | brings haddressed => rw [hired?_of_addressed haddressed]; exact (List.append_nil _).symm
  | hires hs => simp [hs, clients, Entry.hired?]
  | primes hs => rw [hs]; exact (List.append_nil _).symm
  | clears hs => rw [hs]; exact (List.append_nil _).symm
  | idles hdone => rw [hired?_of_undone hdone]; exact (List.append_nil _).symm

theorem isSound (hoffice : office.IsSound) (h : Does office s result) : result.2.IsSound := by
  have hupdate (i : Nat) (change : Outbox → Outbox) : (office.update i change).IsSound := by
    intro member hmember
    simpa [update] using hoffice member hmember
  cases h with
  | brings => exact hupdate _ _
  | hires hs hi =>
    intro member hmember
    rcases List.mem_append.1 hmember with hmember | hmember
    · exact hoffice member hmember
    · obtain rfl := List.mem_singleton.1 hmember
      exact ⟨rfl, hi⟩
  | primes => exact hupdate _ _
  | clears => exact hupdate _ _
  | idles => exact hoffice

/-- A failure is heard exactly where a message comes to an outbox for which it waits. -/
theorem failure?_eq_some_iff {failure : DeliveryFailure} (h : Does office s result) :
    result.1.failure? = some failure ↔ ∃ i box m, s.outbox? office.clients = some i ∧
      office.outboxes[i]? = some box ∧ s.message? = some m ∧ box.pending = some failure := by
  cases h with
  | @brings i m box answer haddressed hbox hm hfailure _ =>
    constructor
    · intro hanswer
      exact ⟨i, box, m, haddressed, hbox, hm, hfailure ▸ hanswer⟩
    · rintro ⟨j, box', m', haddressed', hbox', -, hpending⟩
      obtain rfl := Option.some.inj (haddressed.symm.trans haddressed')
      obtain rfl := Option.some.inj (hbox.symm.trans hbox')
      exact hfailure.trans hpending
  | hires hs =>
    subst hs
    simp [Answer.failure?, Step.outbox?]
  | primes hs =>
    subst hs
    simp [Answer.failure?, Step.message?]
  | clears hs =>
    subst hs
    simp [Answer.failure?, Step.message?]
  | idles hdone hfailure hs =>
    refine iff_of_false (by simp [hfailure]) ?_
    rintro ⟨i, box, m, haddressed, hbox, hm, -⟩
    obtain ⟨hi, -⟩ := List.getElem?_eq_some_iff.1 hbox
    rw [(hs i hi haddressed).1] at hm
    cases hm

/-- A message that comes to an outbox for which no failure waits is delivered. -/
theorem eq_done {i : Nat} {box : Outbox} {m : Message} (h : Does office s result)
    (haddressed : s.outbox? office.clients = some i) (hbox : office.outboxes[i]? = some box)
    (hm : s.message? = some m) (hpending : box.pending = none) : result.1 = .done := by
  cases h with
  | brings haddressed' hbox' _ _ hdone =>
    obtain rfl := Option.some.inj (haddressed.symm.trans haddressed')
    obtain rfl := Option.some.inj (hbox.symm.trans hbox')
    exact hdone hpending
  | hires => rfl
  | primes => rfl
  | clears => rfl
  | idles _ _ hs =>
    obtain ⟨hi, -⟩ := List.getElem?_eq_some_iff.1 hbox
    rw [(hs i hi haddressed).1] at hm
    cases hm

/-- What is refused for another reason than a failure of delivery changes nothing. -/
theorem eq_of_refused {e : Error} (h : Does office s result) (he : result.1 = .refused e)
    (hfailure : result.1.failure? = none) : result.2 = office := by
  cases h with
  | brings _ _ _ hanswer hdone =>
    rw [hdone (hanswer.symm.trans hfailure)] at he
    cases he
  | hires => cases he
  | primes => cases he
  | clears => cases he
  | idles => rfl

/-- What is new in an outbox after a request to compose and deliver has a recipient. -/
theorem recipients_of_send {k i : Nat} {sender subject text : String} {recipients : Recipients}
    {format : BodyFormat} {box box' : Outbox}
    (h : Does office (.send k sender recipients subject text format) result)
    (hbox : office.outboxes[i]? = some box) (hbox' : result.2.outboxes[i]? = some box') :
    ∃ ms, box'.sent = box.sent ++ ms ∧ ∀ m ∈ ms, m.allRecipients ≠ [] := by
  have hsame (hbox' : office.outboxes[i]? = some box') :
      ∃ ms, box'.sent = box.sent ++ ms ∧ ∀ m ∈ ms, m.allRecipients ≠ [] := by
    obtain rfl := Option.some.inj (hbox.symm.trans hbox')
    exact ⟨[], (List.append_nil _).symm, nofun⟩
  cases h with
  | @brings j m _ _ haddressed _ hm =>
    rw [Step.message?, toOption_eq_some_iff] at hm
    have hrecipients := (Message.wellFormed_of_compose hm).2
    by_cases hij : j = i
    · subst hij
      obtain ⟨ms, hdeliver, hms⟩ := box.sent_deliver m
      have hupdated : (office.update j fun box => (box.deliver m).2).outboxes[j]? =
          some (box.deliver m).2 := by
        simp [update, hbox]
      obtain rfl := Option.some.inj (hupdated.symm.trans hbox')
      exact ⟨ms, hdeliver, fun m' hm' => hms m' hm' ▸ hrecipients⟩
    · exact hsame ((List.getElem?_modify_ne _ _ hij).symm.trans hbox')
  | hires hs => cases hs
  | primes hs => cases hs
  | clears hs => cases hs
  | idles => exact hsame hbox'

end Does

end

end Office

end Mailroom
