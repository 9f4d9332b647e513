import Mailroom.Proofs.Mime.Envelope
import Mailroom.Proofs.Smtp.Addressing
import Mailroom.Proofs.Smtp.Obliging

/-! Whether a delivery names the sender and the recipients that a message was composed with. -/
namespace Mailroom.Smtp

/-- What a delivery sends names the recipients of the message in order, or ends before it does; if the
delivery succeeds, its sender is named once, and all of its recipients are. -/
structure Faithful (m : Message) (cs : List Command) (r : Except DeliveryFailure Unit) : Prop where
  recipients : recipientsOf cs <+: m.allRecipients
  complete : r = .ok () → sendersOf cs = [m.sender.address] ∧ recipientsOf cs = m.allRecipients

/-- The message is named faithfully on every plain connection, whatever the server replies. -/
def IsNamedFaithfully (m : Message) : Prop :=
  ∀ (o : Options) (caller : Caller) (net : Network), o.security = .none →
    ∃ cs, ((transport o caller).deliver m net).2.sent = net.sent ++ cs ∧
      Faithful m cs ((transport o caller).deliver m net).1

section
variable {m : Message} {letter : Mime.Letter}

theorem deliver_of_letter {caller : Caller}
    (h : Mime.Letter.ofMessage m caller.date = .ok letter)
    (o : Options) (net : Network) :
    (transport o caller).deliver m net =
      ((converse o caller (Session.deliver letter) net).1.mapError Fault.delivery,
        (converse o caller (Session.deliver letter) net).2) := by
  simp only [transport, h]

theorem deliver_of_client {caller : Caller} (h : Mime.Letter.ofMessage m caller.date = .ok letter)
    (o : Options) (net : Network) :
    Client.deliver { options := o, transport := transport o caller } m net =
      (((converse o caller (Session.deliver letter) net).1.mapError Fault.delivery).mapError .delivery,
        (converse o caller (Session.deliver letter) net).2) := by
  simp only [Client.deliver, Mime.allRecipients_of_ofMessage h, Bool.false_eq_true, if_false,
    deliver_of_letter h]

private theorem faithful_of_survives {caller : Caller} (hm : m.WellFormed)
    (h : ∀ a ∈ m.sender.address :: m.allRecipients, a.Survives)
    (hletter : Mime.Letter.ofMessage m caller.date = .ok letter) (o : Options) (net : Network) :
    ∃ cs, ((transport o caller).deliver m net).2.sent = net.sent ++ cs ∧
      Faithful m cs ((transport o caller).deliver m net).1 := by
  obtain ⟨⟨-, hsender⟩, hrecipients, -⟩ := Mime.envelope_of_ofMessage hm hletter
  have hs : letter.sender = m.sender.address := Address.eq_of_reread? hsender (h _ (by simp))
  have hr : letter.recipients = m.allRecipients :=
    hrecipients.trans ((Mime.keptRecipients_eq_iff hm).2 fun a ha => h a (by simp [ha]))
  obtain ⟨cs, hsent, hnames⟩ := converse_deliver o caller letter net
  rw [deliver_of_letter hletter]
  refine ⟨cs, hsent, hr ▸ hnames.recipients, ?_⟩
  intro hok
  rw [← hs, ← hr]
  exact hnames.complete () (mapError_eq_ok_iff.1 hok)

private theorem survives_of_faithful (caller : Caller) (hm : m.WellFormed)
    (h : IsNamedFaithfully m) (hletter : Mime.Letter.ofMessage m caller.date = .ok letter) :
    ∀ a ∈ m.sender.address :: m.allRecipients, a.Survives := by
  obtain ⟨⟨-, hsender⟩, hrecipients, -⟩ := Mime.envelope_of_ofMessage hm hletter
  -- the server that agrees to everything hears the whole envelope
  obtain ⟨replies, hok⟩ := converse_obliging letter caller
  obtain ⟨cs, hsent, hfaithful⟩ := h default caller (obligingNetwork default replies) rfl
  obtain ⟨cs', hsent', hnames⟩ :=
    converse_deliver default caller letter (obligingNetwork default replies)
  rw [deliver_of_letter hletter] at hsent hfaithful
  obtain rfl : cs = cs' := List.append_cancel_left (hsent.symm.trans hsent')
  obtain ⟨hs, hr⟩ := hfaithful.complete (mapError_eq_ok_iff.2 hok)
  obtain ⟨hs', hr'⟩ := hnames.complete () hok
  have hsame : letter.sender = m.sender.address := by simpa [hs'] using hs
  have hall : Mime.keptRecipients m = m.allRecipients := by rw [← hrecipients, ← hr', hr]
  intro a ha
  rcases List.mem_cons.1 ha with rfl | ha
  · exact (Address.reread?_eq_self_iff hm.sender).1 (hsame ▸ hsender)
  · exact (Mime.keptRecipients_eq_iff hm).1 hall a ha

end

/-- A composed message that can be written down is named faithfully exactly if no part before a sign
stands between quotation marks and every domain is one of atoms and points. -/
theorem isNamedFaithfully_iff_of_compose {sender subject text : String} {recipients : Recipients}
    {format : BodyFormat} {m : Message}
    (h : Message.compose sender recipients subject text format = .ok m) :
    IsNamedFaithfully m ↔
      ((∃ date letter, Mime.Letter.ofMessage m date = .ok letter) →
        ∀ a ∈ m.sender.address :: m.allRecipients, a.Survives) := by
  have hm := (Message.wellFormed_of_compose h).1
  constructor
  · rintro hfaithful ⟨date, letter, hletter⟩
    exact survives_of_faithful ⟨"", date⟩ hm hfaithful hletter
  · intro hs o caller net _
    cases hletter : Mime.Letter.ofMessage m caller.date with
    | error e =>
      refine ⟨[], ?_, List.nil_prefix, ?_⟩
      · simp [transport, hletter]
      · simp [transport, hletter]
    | ok letter => exact faithful_of_survives hm (hs ⟨_, letter, hletter⟩) hletter o net

def circular : Message where
  sender := ⟨some "me", ⟨"me", "example.com"⟩⟩
  primary := [⟨"a", "example.com"⟩]
  cc := [⟨"b.c", "example.com"⟩]
  bcc := [⟨"a", "example.com"⟩]
  subject := "Hi"
  body := ⟨"Body", .html⟩

def circularRecipients : Recipients :=
  .table {
    primary := some (.one "a@example.com")
    cc := some (.many ["b.c@example.com"])
    bcc := some (.one "a@example.com") }

theorem circular_isNamedFaithfully :
    Message.compose "me <me@example.com>" circularRecipients "Hi" "Body" .html = .ok circular ∧
      IsNamedFaithfully circular := by
  have hcompose : Message.compose "me <me@example.com>" circularRecipients "Hi" "Body" .html =
      .ok circular := rfl
  refine ⟨hcompose, (isNamedFaithfully_iff_of_compose hcompose).2 ?_⟩
  intro _
  decide

def lossyMessage : Message where
  sender := ⟨none, ⟨"me", "example.com"⟩⟩
  primary := [⟨"a", "[127.0.0.1]"⟩, ⟨"b", "example.com"⟩]
  subject := "Hi"
  body := ⟨"Body", .plain⟩

def shortScript : Network where
  listener := some ⟨[Options.defaultHost], 25, ["220 hi", "250 hello", "250 sender ok", "250 rcpt ok",
    "354 go", "250 queued", "221 bye"].map String.toList⟩

/-- The message composes and is delivered with success, and its first recipient is never named. -/
theorem lossyMessage_loses_recipient :
    Message.compose "me@example.com" (.list ["a@[127.0.0.1]", "b@example.com"]) "Hi" "Body" .plain =
        .ok lossyMessage ∧
      ((transport default ⟨"client", ""⟩).deliver lossyMessage shortScript).1 = .ok () ∧
      recipientsOf ((transport default ⟨"client", ""⟩).deliver lossyMessage shortScript).2.sent =
        [⟨"b", "example.com"⟩] :=
  ⟨rfl, by decide +kernel, by decide +kernel⟩

end Mailroom.Smtp
