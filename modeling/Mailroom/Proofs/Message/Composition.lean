import Mailroom.Proofs.Message.Composed
import Mailroom.Proofs.Text.Trimming

/-! What a message is composed of, and what stands in the way of one: the message holds every entry that
is given and nothing else, and the first thing that cannot be read is what is reported. -/
namespace Mailroom

namespace Address

theorem parse_trim (s : String) : parse (Text.trim s) = parse s := by
  simp only [parse, Text.trim_trim]

/-- A refusal names the text without the blanks around it. -/
private theorem text_of_parse_eq_error {s : String} {refusal : Refusal}
    (h : parse s = .error refusal) :
    refusal.text = Text.trim s := by
  simp only [parse] at h
  split at h
  · cases h
  · obtain rfl := Except.error.inj h
    rfl

def readAll (texts : List String) : Except Error (List Address) :=
  texts.mapM fun s => (parse s).mapError .invalidAddress

variable {texts : List String}

/-- Texts without blanks around them are read as the addresses that are written like them. -/
theorem readAll_eq_ok_iff (htexts : ∀ s ∈ texts, Text.trim s = s) {as : List Address} :
    readAll texts = .ok as ↔ as.map text = texts ∧ ∀ a ∈ as, parse a.text = .ok a := by
  rw [readAll, mapM_eq_ok_iff]
  induction texts generalizing as with
  | nil => cases as <;> simp
  | cons s texts ih =>
    obtain ⟨hs, htexts⟩ := List.forall_mem_cons.1 htexts
    cases as with
    | nil => simp
    | cons a as =>
      simp only [List.map_cons, List.cons.injEq, mapError_eq_ok_iff, ih htexts, List.forall_mem_cons]
      constructor
      · rintro ⟨ha, hwritten, hread⟩
        obtain ⟨hsa, hwell⟩ := parse_eq_ok_iff.1 ha
        exact ⟨⟨hsa.symm.trans hs, hwritten⟩, hwell.parse_text, hread⟩
      · rintro ⟨⟨rfl, hwritten⟩, ha, hread⟩
        exact ⟨ha, hwritten, hread⟩

theorem readAll_eq_error_iff {e : Error} :
    readAll texts = .error e ↔ ∃ before s after refusal, texts = before ++ s :: after ∧
      (∀ t ∈ before, ∃ a, parse t = .ok a) ∧ parse s = .error refusal ∧ .invalidAddress refusal = e := by
  simp only [readAll, mapM_eq_error_iff, mapError_eq_ok_iff, mapError_eq_error_iff]
  constructor
  · rintro ⟨before, s, after, htexts, hbefore, refusal, hs, he⟩
    exact ⟨before, s, after, refusal, htexts, hbefore, hs, he⟩
  · rintro ⟨before, s, after, refusal, htexts, hbefore, hs, he⟩
    exact ⟨before, s, after, htexts, hbefore, refusal, hs, he⟩

end Address

namespace Recipients

/-- What is given for all roles, in their order: without blanks around it, and without what is blank. -/
def entries (r : Recipients) : List String :=
  ((Role.all.flatMap r.texts).map Text.trim).filter (· ≠ "")

variable {r : Recipients}

theorem addresses_eq (r : Recipients) (role : Role) :
    r.addresses role = ((r.texts role).map Text.trim).filter (· ≠ "") := by
  rw [addresses]
  refine List.filter_congr fun s _ => ?_
  rw [Bool.eq_iff_iff]
  simp

private theorem entries_eq (r : Recipients) :
    r.entries = r.addresses .primary ++ (r.addresses .cc ++ r.addresses .bcc) := by
  simp [entries, Role.all, addresses_eq]

private theorem readAll_entries (r : Recipients) :
    Address.readAll r.entries = (do
      let primary ← Address.readAll (r.addresses .primary)
      let cc ← Address.readAll (r.addresses .cc)
      let bcc ← Address.readAll (r.addresses .bcc)
      return primary ++ (cc ++ bcc)) := by
  simp only [Address.readAll, entries_eq, List.mapM_append, bind_assoc, pure_bind]

theorem mem_entries_iff {s : String} :
    s ∈ r.entries ↔ ∃ role, ∃ t ∈ r.texts role, Text.trim t ≠ "" ∧ Text.trim t = s := by
  have hall : ∀ role, role ∈ Role.all := by
    intro role
    cases role <;> decide
  simp only [entries, List.mem_filter, List.mem_map, List.mem_flatMap, decide_eq_true_eq]
  constructor
  · rintro ⟨⟨t, ⟨role, -, ht⟩, rfl⟩, hne⟩
    exact ⟨role, t, ht, hne, rfl⟩
  · rintro ⟨role, t, ht, hne, rfl⟩
    exact ⟨⟨t, ⟨role, hall role, ht⟩, rfl⟩, hne⟩

private theorem trim_of_mem_entries (r : Recipients) : ∀ s ∈ r.entries, Text.trim s = s := by
  intro s hs
  obtain ⟨role, t, -, -, rfl⟩ := mem_entries_iff.1 hs
  exact Text.trim_trim t

private theorem trim_of_mem_addresses {role : Role} : ∀ s ∈ r.addresses role, Text.trim s = s := by
  intro s hs
  obtain ⟨t, -, rfl⟩ := List.mem_map.1 (List.mem_filter.1 hs).1
  exact Text.trim_trim t

end Recipients

namespace Message

def addAll (m : Message) (role : Role) (as : List Address) : Message :=
  match role with
  | .primary => { m with primary := m.primary ++ as }
  | .cc => { m with cc := m.cc ++ as }
  | .bcc => { m with bcc := m.bcc ++ as }

private theorem addAll_cons (m : Message) (role : Role) (a : Address) (as : List Address) :
    m.addAll role (a :: as) = (m.add role a).addAll role as := by
  cases role <;> simp [addAll, add]

private theorem addTexts_eq (m : Message) (role : Role) (texts : List String) :
    m.addTexts role texts = (Address.readAll texts).map (m.addAll role) := by
  induction texts generalizing m with
  | nil => cases role <;> simp [addTexts, Address.readAll, addAll, Except.map, pure, Except.pure]
  | cons s texts ih =>
    have hstep : m.addTexts role (s :: texts) =
        ((Address.parse s).mapError .invalidAddress >>= fun a => (m.add role a).addTexts role texts) := by
      rw [addTexts, List.foldlM_cons, bind_assoc]
      rfl
    rw [hstep, Address.readAll, List.mapM_cons]
    cases (Address.parse s).mapError Error.invalidAddress with
    | error e => rfl
    | ok a =>
      change (m.add role a).addTexts role texts = ((a :: ·) <$> Address.readAll texts).map (m.addAll role)
      rw [ih]
      cases Address.readAll texts with
      | error e => rfl
      | ok as => exact congrArg Except.ok (m.addAll_cons role a as).symm

section
variable {sender subject text : String} {recipients : Recipients} {format : BodyFormat} {m : Message}

/-- Composing reads the sender, and then the entries of each role. -/
theorem compose_eq (sender : String) (recipients : Recipients) (subject text : String)
    (format : BodyFormat) :
    compose sender recipients subject text format = (do
      let sender ← (Mailbox.parse sender).mapError .invalidAddress
      let primary ← Address.readAll (recipients.addresses .primary)
      let cc ← Address.readAll (recipients.addresses .cc)
      let bcc ← Address.readAll (recipients.addresses .bcc)
      if primary ++ (cc ++ bcc) = [] then .error .noRecipients
      else .ok { sender, primary, cc, bcc, subject, body := ⟨text, format⟩ }) := by
  simp only [compose, Role.all, List.foldlM_cons, List.foldlM_nil, addTexts_eq]
  cases (Mailbox.parse sender).mapError Error.invalidAddress with
  | error e => rfl
  | ok mailbox =>
    cases Address.readAll (recipients.addresses .primary) with
    | error e => rfl
    | ok primary =>
      cases Address.readAll (recipients.addresses .cc) with
      | error e => rfl
      | ok cc =>
        cases Address.readAll (recipients.addresses .bcc) with
        | error e => rfl
        | ok bcc =>
          simp only [Except.map, addAll, bind, Except.bind, pure, Except.pure, List.nil_append,
            allRecipients, List.append_assoc, List.isEmpty_iff]
          split
          · rfl
          · rfl

def inFormat (m : Message) (format : BodyFormat) : Message := { m with body := { m.body with format } }

/-- The format plays no part in composing, and is kept. -/
theorem compose_inFormat (sender : String) (recipients : Recipients) (subject text : String)
    (format format' : BodyFormat) :
    compose sender recipients subject text format' =
      (compose sender recipients subject text format).map (inFormat · format') := by
  rw [compose_eq, compose_eq]
  cases (Mailbox.parse sender).mapError Error.invalidAddress with
  | error e => rfl
  | ok mailbox =>
    cases Address.readAll (recipients.addresses .primary) with
    | error e => rfl
    | ok primary =>
      cases Address.readAll (recipients.addresses .cc) with
      | error e => rfl
      | ok cc =>
        cases Address.readAll (recipients.addresses .bcc) with
        | error e => rfl
        | ok bcc =>
          dsimp only [bind, Except.bind]
          split
          · rfl
          · rfl

theorem compose_eq_ok_iff :
    compose sender recipients subject text format = .ok m ↔
      Mailbox.parse sender = .ok m.sender ∧
        (∀ role, Address.readAll (recipients.addresses role) = .ok (m.recipients role)) ∧
        m.allRecipients ≠ [] ∧ m.subject = subject ∧ m.body = ⟨text, format⟩ := by
  simp only [compose_eq, bind_eq_ok_iff, mapError_eq_ok_iff]
  constructor
  · rintro ⟨mailbox, hsender, primary, hprimary, cc, hcc, bcc, hbcc, h⟩
    split at h
    · cases h
    · next hne =>
      obtain rfl := Except.ok.inj h
      refine ⟨hsender, ?_, by simpa [allRecipients] using hne, rfl, rfl⟩
      intro role
      cases role with
      | primary => exact hprimary
      | cc => exact hcc
      | bcc => exact hbcc
  · rintro ⟨hsender, hread, hne, rfl, hbody⟩
    refine ⟨_, hsender, _, hread .primary, _, hread .cc, _, hread .bcc, ?_⟩
    have hne : m.primary ++ (m.cc ++ m.bcc) ≠ [] := by simpa [allRecipients] using hne
    rw [← hbody]
    exact if_neg hne

/-- With a good sender, composing fails as reading all entries does, or for want of any. -/
theorem compose_eq_error_iff {mailbox : Mailbox} (hsender : Mailbox.parse sender = .ok mailbox)
    {e : Error} :
    compose sender recipients subject text format = .error e ↔
      Address.readAll recipients.entries = .error e ∨
        Address.readAll recipients.entries = .ok [] ∧ e = .noRecipients := by
  have hmailbox : (Mailbox.parse sender).mapError Error.invalidAddress = .ok mailbox :=
    mapError_eq_ok_iff.2 hsender
  rw [compose_eq, hmailbox, Recipients.readAll_entries]
  cases Address.readAll (recipients.addresses .primary) with
  | error e' => simp [bind, Except.bind]
  | ok primary =>
    cases Address.readAll (recipients.addresses .cc) with
    | error e' => simp [bind, Except.bind]
    | ok cc =>
      cases Address.readAll (recipients.addresses .bcc) with
      | error e' => simp [bind, Except.bind]
      | ok bcc =>
        by_cases hnone : primary ++ (cc ++ bcc) = []
        · simp [bind, Except.bind, pure, Except.pure, hnone, eq_comm]
        · simp [bind, Except.bind, pure, Except.pure, hnone]

end

/-- The message says what it was given: its sender, and in each role the entries for that role, in order
and as often as they were given. -/
structure IsComposedOf (sender : String) (recipients : Recipients) (subject text : String)
    (format : BodyFormat) (m : Message) : Prop where
  sender : Mailbox.parse sender = .ok m.sender
  written : ∀ role, (m.recipients role).map Address.text =
    ((recipients.texts role).map Text.trim).filter (· ≠ "")
  read : ∀ role, ∀ a ∈ m.recipients role, Address.parse a.text = .ok a
  /-- Without a table all recipients are primary ones. -/
  primaryOnly : (∀ t, recipients ≠ .table t) → m.cc = [] ∧ m.bcc = []
  order : m.allRecipients = m.primary ++ m.cc ++ m.bcc
  count : m.recipientCount = m.allRecipients.length
  ne_nil : m.allRecipients ≠ []
  subject : m.subject = subject
  body : m.body = ⟨text, format⟩

/-- What composing comes to. A bad sender is reported before any recipient, the first bad entry before
later ones, and that there are no recipients only if everything is good. -/
inductive ComposesTo (sender : String) (recipients : Recipients) (subject text : String)
    (format : BodyFormat) : Except Error Message → Prop
  | message {m : Message} (hm : IsComposedOf sender recipients subject text format m) :
      ComposesTo sender recipients subject text format (.ok m)
  | badSender {refusal : Address.Refusal} (hsender : Mailbox.parse sender = .error refusal) :
      ComposesTo sender recipients subject text format (.error (.invalidAddress refusal))
  | badRecipient {mailbox : Mailbox} {before after : List String} {s : String}
      {reason : Address.Reason} (hsender : Mailbox.parse sender = .ok mailbox)
      (hentries : recipients.entries = before ++ s :: after)
      (hbefore : ∀ t ∈ before, ∃ a, Address.parse t = .ok a)
      (hs : Address.parse s = .error ⟨s, reason⟩) :
      ComposesTo sender recipients subject text format (.error (.invalidAddress ⟨s, reason⟩))
  | noRecipients {mailbox : Mailbox} (hsender : Mailbox.parse sender = .ok mailbox)
      (hentries : recipients.entries = []) :
      ComposesTo sender recipients subject text format (.error .noRecipients)

structure IsAcceptable (sender : String) (recipients : Recipients) : Prop where
  sender : ∃ mailbox, Mailbox.parse sender = .ok mailbox
  entries : ∀ role, ∀ s ∈ recipients.texts role, Text.trim s ≠ "" → ∃ a, Address.parse s = .ok a
  exists_entry : ∃ role, ∃ s ∈ recipients.texts role, Text.trim s ≠ ""

section
variable {sender subject text : String} {recipients : Recipients} {format : BodyFormat} {m : Message}

private theorem isComposedOf_iff :
    IsComposedOf sender recipients subject text format m ↔
      compose sender recipients subject text format = .ok m := by
  have hread (role : Role) : Address.readAll (recipients.addresses role) = .ok (m.recipients role) ↔
      (m.recipients role).map Address.text = ((recipients.texts role).map Text.trim).filter (· ≠ "") ∧
        ∀ a ∈ m.recipients role, Address.parse a.text = .ok a := by
    rw [Address.readAll_eq_ok_iff Recipients.trim_of_mem_addresses, Recipients.addresses_eq]
  simp only [compose_eq_ok_iff, hread, forall_and]
  constructor
  · intro h
    exact ⟨h.sender, ⟨h.written, h.read⟩, h.ne_nil, h.subject, h.body⟩
  · rintro ⟨hsender, ⟨hwritten, hread⟩, hne, hsubject, hbody⟩
    refine ⟨hsender, hwritten, hread, ?_, rfl, ?_, hne, hsubject, hbody⟩
    · intro htable
      have hcc : m.cc.map Address.text = _ := hwritten .cc
      have hbcc : m.bcc.map Address.text = _ := hwritten .bcc
      cases recipients with
      | one t => exact ⟨List.map_eq_nil_iff.1 hcc, List.map_eq_nil_iff.1 hbcc⟩
      | list ts => exact ⟨List.map_eq_nil_iff.1 hcc, List.map_eq_nil_iff.1 hbcc⟩
      | table t => exact absurd rfl (htable t)
    · simp [recipientCount, allRecipients, Nat.add_assoc]

private theorem readAll_entries_eq_error_iff {e : Error} :
    Address.readAll recipients.entries = .error e ↔
      ∃ before s after reason, recipients.entries = before ++ s :: after ∧
        (∀ t ∈ before, ∃ a, Address.parse t = .ok a) ∧ Address.parse s = .error ⟨s, reason⟩ ∧
        .invalidAddress ⟨s, reason⟩ = e := by
  rw [Address.readAll_eq_error_iff]
  constructor
  · rintro ⟨before, s, after, ⟨t, reason⟩, hentries, hbefore, hs, rfl⟩
    have htrim : Text.trim s = s := recipients.trim_of_mem_entries s (by simp [hentries])
    obtain rfl : t = s := (Address.text_of_parse_eq_error hs).trans htrim
    exact ⟨before, t, after, reason, hentries, hbefore, hs, rfl⟩
  · rintro ⟨before, s, after, reason, hentries, hbefore, hs, rfl⟩
    exact ⟨before, s, after, _, hentries, hbefore, hs, rfl⟩

theorem composesTo_compose (sender : String) (recipients : Recipients) (subject text : String)
    (format : BodyFormat) :
    ComposesTo sender recipients subject text format
      (compose sender recipients subject text format) := by
  cases hcompose : compose sender recipients subject text format with
  | ok m => exact .message (isComposedOf_iff.2 hcompose)
  | error e =>
    cases hsender : Mailbox.parse sender with
    | error refusal =>
      have hrefused : compose sender recipients subject text format = .error (.invalidAddress refusal) := by
        rw [compose_eq, hsender]
        rfl
      obtain rfl := Except.error.inj (hcompose.symm.trans hrefused)
      exact .badSender hsender
    | ok mailbox =>
      rcases (compose_eq_error_iff hsender).1 hcompose with h | ⟨h, rfl⟩
      · obtain ⟨before, s, after, reason, hentries, hbefore, hs, rfl⟩ := readAll_entries_eq_error_iff.1 h
        exact .badRecipient hsender hentries hbefore hs
      · refine .noRecipients hsender ?_
        have hwritten := (Address.readAll_eq_ok_iff recipients.trim_of_mem_entries).1 h
        exact hwritten.1.symm

/-- Composing has one outcome. -/
theorem ComposesTo.compose_eq {x : Except Error Message}
    (h : ComposesTo sender recipients subject text format x) :
    compose sender recipients subject text format = x := by
  cases h with
  | message hm => exact isComposedOf_iff.1 hm
  | badSender hsender =>
    rw [Message.compose_eq, hsender]
    rfl
  | badRecipient hsender hentries hbefore hs =>
    exact (compose_eq_error_iff hsender).2
      (.inl (readAll_entries_eq_error_iff.2 ⟨_, _, _, _, hentries, hbefore, hs, rfl⟩))
  | noRecipients hsender hentries =>
    refine (compose_eq_error_iff hsender).2 (.inr ⟨?_, rfl⟩)
    rw [hentries]
    rfl

theorem IsComposedOf.mem_entries_iff (h : IsComposedOf sender recipients subject text format m)
    {s : String} : s ∈ recipients.entries ↔ ∃ a ∈ m.allRecipients, a.text = s := by
  have hentries : recipients.entries = m.allRecipients.map Address.text := by
    rw [Recipients.entries_eq, h.order, List.map_append, List.map_append, List.append_assoc]
    simp only [Recipients.addresses_eq, ← h.written, Message.recipients]
  rw [hentries, List.mem_map]

theorem exists_compose_eq_ok_iff :
    (∃ m, compose sender recipients subject text format = .ok m) ↔ IsAcceptable sender recipients := by
  constructor
  · rintro ⟨m, hcompose⟩
    have hm := isComposedOf_iff.2 hcompose
    refine ⟨⟨_, hm.sender⟩, ?_, ?_⟩
    · intro role s hs hne
      obtain ⟨a, ha, has⟩ := hm.mem_entries_iff.1 (Recipients.mem_entries_iff.2 ⟨role, s, hs, hne, rfl⟩)
      obtain ⟨role', ha⟩ := mem_allRecipients.1 ha
      exact ⟨a, by rw [← Address.parse_trim, ← has, hm.read role' a ha]⟩
    · obtain ⟨a, ha⟩ := List.exists_mem_of_ne_nil _ hm.ne_nil
      obtain ⟨role, s, hs, hne, -⟩ :=
        Recipients.mem_entries_iff.1 (hm.mem_entries_iff.2 ⟨a, ha, rfl⟩)
      exact ⟨role, s, hs, hne⟩
  · rintro ⟨⟨mailbox, hsender⟩, hentries, hsome⟩
    have houtcome := composesTo_compose sender recipients subject text format
    cases hcompose : compose sender recipients subject text format with
    | ok m => exact ⟨m, rfl⟩
    | error e =>
      -- every way to fail contradicts what is acceptable
      rw [hcompose] at houtcome
      cases houtcome with
      | badSender hbad => exact nomatch hsender.symm.trans hbad
      | @badRecipient _ before after s reason _ heq _ hbad =>
        obtain ⟨role, t, ht, hne, rfl⟩ := Recipients.mem_entries_iff.1
          (show s ∈ recipients.entries by simp [heq])
        obtain ⟨a, ha⟩ := hentries role t ht hne
        rw [Address.parse_trim, ha] at hbad
        cases hbad
      | noRecipients _ hnone =>
        obtain ⟨role, t, ht, hne⟩ := hsome
        have hmem := Recipients.mem_entries_iff.2 ⟨role, t, ht, hne, rfl⟩
        rw [hnone] at hmem
        cases hmem

end

/-- Composing succeeds exactly if the sender and every entry can be read and there is an entry. The message
then holds all entries, each in its role and in order; otherwise the first thing that is wrong is
reported. -/
theorem compose_eq_iff_composesTo (sender : String) (recipients : Recipients) (subject text : String)
    (format : BodyFormat) :
    ((∃ m, compose sender recipients subject text format = .ok m) ↔ IsAcceptable sender recipients) ∧
      ∀ x, compose sender recipients subject text format = x ↔
        ComposesTo sender recipients subject text format x := by
  refine ⟨exists_compose_eq_ok_iff, fun x => ⟨?_, ComposesTo.compose_eq⟩⟩
  rintro rfl
  exact composesTo_compose sender recipients subject text format

/-- A bad carbon copy is reported though a bad blind copy comes first in the table; blanks do not count. -/
example : compose "me@example.com" (.table {
    primary := some (.many [" a@example.com ", " ", "a@example.com"])
    bcc := some (.one "worse")
    cc := some (.one " bad ") }) "Hi" "Body" .plain = .error (.invalidAddress ⟨"bad", .noSign⟩) := by
  decide +kernel

end Message
end Mailroom
