import Mailroom.Proofs.Message.Composed
import Mailroom.Proofs.Mime.Sender

/-! The envelope of a letter, and the messages that get one. -/
namespace Mailroom.Mime

/-- The recipients that the headers of a message give back, in the order of roles. -/
def keptRecipients (m : Message) : List Address :=
  Role.all.flatMap fun role => kept (m.recipients role)

section
variable {m : Message}

theorem envelopeRecipients_eq_ok_iff (h : m.WellFormed) {as : List Address} :
    envelopeRecipients m = .ok as ↔ as = keptRecipients m ∧ as ≠ [] := by
  have hkept : (Role.all.flatMap fun role => envelopeAddresses (headerAddresses (m.recipients role))) =
      keptRecipients m :=
    congrArg (Role.all.flatMap ·) (funext fun role => envelopeAddresses_headerAddresses (h.recipients role))
  unfold envelopeRecipients
  rw [hkept]
  cases keptRecipients m with
  | nil => simp
  | cons a as' => simp +contextual [eq_comm]

theorem keptRecipients_ne_nil_iff :
    keptRecipients m ≠ [] ↔ ∃ role, kept (m.recipients role) ≠ [] := by
  simp only [keptRecipients, ne_eq, List.flatMap_eq_nil_iff, Classical.not_forall]
  constructor
  · rintro ⟨role, -, h⟩
    exact ⟨role, h⟩
  · rintro ⟨role, h⟩
    exact ⟨role, by cases role <;> decide, h⟩

/-- The headers give back the recipients as they are exactly if each of them survives. -/
theorem keptRecipients_eq_iff (h : m.WellFormed) :
    keptRecipients m = m.allRecipients ↔ ∀ a ∈ m.allRecipients, a.Survives := by
  have hkept : keptRecipients m = kept m.primary ++ kept m.cc ++ kept m.bcc := by
    simp [keptRecipients, Role.all, Message.recipients]
  constructor
  · intro heq
    have hsize := congrArg size heq
    simp only [hkept, Message.allRecipients, size_append] at hsize
    have hprimary := size_kept_le m.primary
    have hcc := size_kept_le m.cc
    have hbcc := size_kept_le m.bcc
    intro a ha
    simp only [Message.allRecipients, List.mem_append] at ha
    rcases ha with (ha | ha) | ha
    · exact survives_of_size_kept (by omega) a ha
    · exact survives_of_size_kept (by omega) a ha
    · exact survives_of_size_kept (by omega) a ha
  · intro hs
    have hrole : ∀ role, kept (m.recipients role) = m.recipients role := fun role =>
      kept_of_survives (h.recipients role) fun a ha => hs a (Message.mem_allRecipients.2 ⟨role, ha⟩)
    have hprimary : kept m.primary = m.primary := hrole .primary
    have hcc : kept m.cc = m.cc := hrole .cc
    have hbcc : kept m.bcc = m.bcc := hrole .bcc
    rw [hkept, hprimary, hcc, hbcc, Message.allRecipients]

def contentOf (m : Message) (date : String) : List Char :=
  let text := m.body.text.toList
  let encoding := TransferEncoding.choose (Text.utf8 text)
  headers m encoding date ++ ['\r', '\n'] ++ encoding.apply text

/-- A message is written down as a letter exactly if that has its sender, its recipients and its content. -/
theorem ofMessage_eq_ok_iff {date : String} {letter : Letter} :
    Letter.ofMessage m date = .ok letter ↔
      envelopeSender m.sender = .ok letter.sender ∧ envelopeRecipients m = .ok letter.recipients ∧
        letter.content = contentOf m date := by
  constructor
  · intro h
    obtain ⟨sender, hsender, h⟩ := bind_eq_ok_iff.1 h
    obtain ⟨recipients, hrecipients, h⟩ := bind_eq_ok_iff.1 h
    obtain rfl := pure_eq_ok_iff.1 h
    exact ⟨hsender, hrecipients, rfl⟩
  · rintro ⟨hsender, hrecipients, hcontent⟩
    obtain ⟨sender, recipients, content⟩ := letter
    obtain rfl := hcontent
    exact bind_eq_ok_iff.2 ⟨sender, hsender, bind_eq_ok_iff.2 ⟨recipients, hrecipients, rfl⟩⟩

/-- A letter has the sender and the recipients that the headers give back. -/
theorem envelope_of_ofMessage (h : m.WellFormed) {date : String} {letter : Letter}
    (hletter : Letter.ofMessage m date = .ok letter) :
    (HasSafeName m.sender ∧ m.sender.address.reread? = some letter.sender) ∧
      letter.recipients = keptRecipients m ∧ letter.recipients ≠ [] := by
  obtain ⟨hsender, hrecipients, -⟩ := ofMessage_eq_ok_iff.1 hletter
  exact ⟨(envelopeSender_eq_ok_iff h.sender).1 hsender, (envelopeRecipients_eq_ok_iff h).1 hrecipients⟩

/-- A letter has a recipient. -/
theorem allRecipients_of_ofMessage {date : String} {letter : Letter}
    (h : Letter.ofMessage m date = .ok letter) : m.allRecipients.isEmpty = false := by
  cases hm : m.allRecipients with
  | cons a as => rfl
  | nil =>
    obtain ⟨hprimary, hcc⟩ : m.primary = [] ∧ m.cc = [] ∧ m.bcc = [] := by
      simpa [Message.allRecipients, and_assoc] using hm
    obtain ⟨-, h, -⟩ := ofMessage_eq_ok_iff.1 h
    simp [envelopeRecipients, Role.all, Message.recipients, hprimary, hcc, headerAddresses,
      envelopeAddresses] at h

theorem exists_letter_iff (h : m.WellFormed) (date : String) :
    (∃ letter, Letter.ofMessage m date = .ok letter) ↔
      HasSafeName m.sender ∧ m.sender.address.reread?.isSome = true ∧ keptRecipients m ≠ [] := by
  constructor
  · rintro ⟨letter, hletter⟩
    obtain ⟨⟨hname, hread⟩, hkept, hne⟩ := envelope_of_ofMessage h hletter
    exact ⟨hname, by simp [hread], hkept ▸ hne⟩
  · rintro ⟨hname, hread, hne⟩
    obtain ⟨a, ha⟩ := Option.isSome_iff_exists.1 hread
    have hsender := (envelopeSender_eq_ok_iff h.sender).2 ⟨hname, ha⟩
    have hrecipients := (envelopeRecipients_eq_ok_iff h).2 ⟨rfl, hne⟩
    exact ⟨⟨a, keptRecipients m, contentOf m date⟩, ofMessage_eq_ok_iff.2 ⟨hsender, hrecipients, rfl⟩⟩

end

/-- A composed message can be written down exactly if the name of its sender has neither line breaks nor
null characters, its sender can be read back, and so can the recipients in some role. -/
theorem exists_letter_iff_of_compose {sender subject text : String} {recipients : Recipients}
    {format : BodyFormat} {m : Message}
    (h : Message.compose sender recipients subject text format = .ok m) (date : String) :
    (∃ letter, Letter.ofMessage m date = .ok letter) ↔
      (∀ c ∈ trimmedName m.sender, c ≠ '\n' ∧ c ≠ '\r' ∧ c ≠ '\x00') ∧
        m.sender.address.reread?.isSome = true ∧ ∃ role, kept (m.recipients role) ≠ [] := by
  have hwell := (Message.wellFormed_of_compose h).1
  rw [exists_letter_iff hwell, keptRecipients_ne_nil_iff]
  rfl

def namedMessage : Message where
  sender := ⟨some "A. B", ⟨"me", "example.com"⟩⟩
  primary := [⟨"a", "example.com"⟩]
  subject := ""
  body := ⟨"", .plain⟩

theorem exists_letter_of_namedMessage :
    Message.compose "A. B <me@example.com>" (.one "a@example.com") "" "" .plain = .ok namedMessage ∧
      ∃ letter, Letter.ofMessage namedMessage "" = .ok letter :=
  have hcompose : Message.compose "A. B <me@example.com>" (.one "a@example.com") "" "" .plain =
      .ok namedMessage := rfl
  have hname : trimmedName namedMessage.sender = ['A', '.', ' ', 'B'] := by decide
  ⟨hcompose, (exists_letter_iff_of_compose hcompose "").2
    ⟨by simp [hname], by decide, .primary, by decide⟩⟩

def bracketMessage : Message where
  sender := ⟨none, ⟨"me", "example.com"⟩⟩
  primary := [⟨"a", "[127.0.0.1]"⟩]
  subject := ""
  body := ⟨"", .plain⟩

/-- A recipient at a domain in brackets composes, and leaves the envelope without recipients. -/
theorem bracketMessage_has_no_letter :
    Message.compose "me@example.com" (.list ["a@[127.0.0.1]"]) "" "" .plain = .ok bracketMessage ∧
      Letter.ofMessage bracketMessage "" = .error .missingRecipient :=
  ⟨rfl, rfl⟩

end Mailroom.Mime
