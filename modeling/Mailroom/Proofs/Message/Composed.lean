import Mailroom.Message.Basic
import Mailroom.Proofs.Mailbox

/-! Messages that were composed: each of their addresses has been read. -/
namespace Mailroom

namespace Message

structure WellFormed (m : Message) : Prop where
  sender : m.sender.address.WellFormed
  recipients : ∀ role, ∀ a ∈ m.recipients role, a.WellFormed

theorem mem_allRecipients {m : Message} {a : Address} :
    a ∈ m.allRecipients ↔ ∃ role, a ∈ m.recipients role := by
  simp only [allRecipients, List.mem_append]
  constructor
  · rintro ((h | h) | h)
    · exact ⟨.primary, h⟩
    · exact ⟨.cc, h⟩
    · exact ⟨.bcc, h⟩
  · rintro ⟨role, h⟩
    cases role with
    | primary => exact .inl (.inl h)
    | cc => exact .inl (.inr h)
    | bcc => exact .inr h

private theorem mem_recipients_add {m : Message} {role other : Role} {a b : Address}
    (h : b ∈ (m.add role a).recipients other) : b ∈ m.recipients other ∨ b = a := by
  cases role <;> cases other <;> simp_all [add, recipients]

theorem WellFormed.add {m : Message} (h : m.WellFormed) (role : Role) {a : Address}
    (ha : a.WellFormed) : (m.add role a).WellFormed where
  sender := by
    cases role <;> exact h.sender
  recipients other b hb := by
    rcases mem_recipients_add hb with hb | rfl
    · exact h.recipients other b hb
    · exact ha

private theorem wellFormed_addTexts {m m' : Message} {role : Role} {texts : List String}
    (hm : m.WellFormed) (h : m.addTexts role texts = .ok m') : m'.WellFormed := by
  refine invariant_of_foldlM ?_ hm h
  intro s text t hs ht
  simp only [bind_eq_ok_iff, mapError_eq_ok_iff, pure_eq_ok_iff] at ht
  obtain ⟨a, ha, rfl⟩ := ht
  exact hs.add role (Address.parse_eq_ok_iff.1 ha).2

/-- Each address of a composed message has been read, and there is a recipient. -/
theorem wellFormed_of_compose {sender subject text : String} {recipients : Recipients}
    {format : BodyFormat} {m : Message}
    (h : compose sender recipients subject text format = .ok m) :
    m.WellFormed ∧ m.allRecipients ≠ [] := by
  simp only [compose, bind_eq_ok_iff, mapError_eq_ok_iff] at h
  obtain ⟨mailbox, hmailbox, full, hfull, h⟩ := h
  have hwell : full.WellFormed := by
    refine invariant_of_foldlM ?_ ?_ hfull
    · intro s role t hs ht
      exact wellFormed_addTexts hs ht
    · refine ⟨Mailbox.wellFormed_of_parse hmailbox, ?_⟩
      intro role
      cases role <;> simp [Message.recipients]
  split at h
  · simp [throw, throwThe, MonadExceptOf.throw, bind, Except.bind] at h
  · next hne =>
    obtain rfl := pure_eq_ok_iff.1 h
    exact ⟨hwell, by simpa using hne⟩

/-- Composing fails for want of an address or of recipients. -/
theorem failsOnly_compose (sender subject text : String) (recipients : Recipients)
    (format : BodyFormat) :
    FailsOnly (fun e => e = .noRecipients ∨ ∃ refusal, e = .invalidAddress refusal)
      (compose sender recipients subject text format) := by
  refine FailsOnly.bind (failsOnly_mapError fun refusal => .inr ⟨refusal, rfl⟩) fun mailbox => ?_
  refine FailsOnly.bind (failsOnly_foldlM (fun m role => ?_) _ _) fun m => ?_
  · refine failsOnly_foldlM (fun m address => ?_) m _
    exact FailsOnly.bind (failsOnly_mapError fun refusal => .inr ⟨refusal, rfl⟩) fun _ => failsOnly_ok _
  · split
    · exact FailsOnly.bind (failsOnly_error (.inl rfl)) fun _ => failsOnly_ok _
    · exact failsOnly_ok _

end Message

end Mailroom
