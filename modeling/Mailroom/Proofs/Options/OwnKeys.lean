import Mailroom.Proofs.Options.Reading

/-! The keys that are read from a bag. The other properties of the bag have no say in the options, and are
kept as they are. -/
namespace Mailroom.Options

open PropertyBag

/-- The key is read from the bag: it selects the protocol, or is recognized under the one that is selected. -/
def IsOwn (bag : PropertyBag) (k : String) : Prop :=
  k = protocolKey ∨ ∃ p, Selects bag p ∧ k ∈ recognizedKeys p

structure Agree (bag bag' : PropertyBag) : Prop where
  protocol : bag'.get? protocolKey = bag.get? protocolKey
  settings : ∀ p, Selects bag p → ∀ k ∈ recognizedKeys p, k ≠ protocolKey →
    nonEmpty? bag' k = nonEmpty? bag k

variable {bag bag' : PropertyBag} {p q : Protocol} {k : String}

theorem isOwn_of_mem {p : Protocol} (hp : Selects bag p) (hk : k ∈ recognizedKeys p) : IsOwn bag k :=
  .inr ⟨p, hp, hk⟩

/-- The keys of settings, which are read after the protocol. -/
private theorem mem_recognizedKeys_and_ne (p : Protocol) :
    ∀ k ∈ [hostKey p, authKey p, userKey, passwordKey, timeoutKey p, portKey p],
      k ∈ recognizedKeys p ∧ k ≠ protocolKey := by
  cases p <;> decide

/-- Bags that agree stand for the same options, apart from the properties that are kept, or are refused for
the same reason. -/
theorem Agree.ofBag_eq_map (h : Agree bag bag') (f : PropertyBag → PropertyBag)
    (hextra : ∀ p, Selects bag p →
      (recognizedKeys p).foldl erase bag' = f ((recognizedKeys p).foldl erase bag)) :
    ofBag bag' = (ofBag bag).map fun o => { o with extra := f o.extra } := by
  have hprotocol : readProtocol bag' = readProtocol bag := by
    simp only [readProtocol, h.protocol]
  rw [ofBag_eq, ofBag_eq, hprotocol]
  cases hp : readProtocol bag with
  | error e => rfl
  | ok p =>
    have hselects := readProtocol_eq_ok_iff.1 hp
    have hkey {k : String} (hk : k ∈ recognizedKeys p ∧ k ≠ protocolKey) :
        nonEmpty? bag' k = nonEmpty? bag k := h.settings p hselects k hk.1 hk.2
    have hread {α : Type} {k : String} (hk : k ∈ recognizedKeys p ∧ k ≠ protocolKey)
        (read? : String → Option α) : readKey bag' k read? = readKey bag k read? := by
      simp only [readKey, hkey hk]
    have hstarttls : readStarttls bag' p = readStarttls bag p := by
      cases p with
      | smtp => exact hread (by decide) readBool?
      | smtps => rfl
    have hown := mem_recognizedKeys_and_ne p
    simp only [List.forall_mem_cons] at hown
    obtain ⟨hhost, hauth, huser, hpassword, htimeout, hport, -⟩ := hown
    simp only [bind, Except.bind, hread hauth, hstarttls, hread htimeout, hread hport, hkey hhost,
      hkey huser, hkey hpassword, hextra p hselects]
    -- the same is read in both bags, so they fail together
    cases readKey bag (authKey p) readBool? with
    | error e => rfl
    | ok auth =>
      cases readStarttls bag p with
      | error e => rfl
      | ok starttls =>
        cases readKey bag (timeoutKey p) readMillis? with
        | error e => rfl
        | ok timeout =>
          cases readKey bag (portKey p) readPort? with
          | error e => rfl
          | ok port => rfl

/-- Bags that agree on what is read and on what is kept come to the same. -/
theorem Agree.ofBag_eq (h : Agree bag bag')
    (hextra : ∀ p, Selects bag p → ∀ k, k ∉ recognizedKeys p → bag'.get? k = bag.get? k) :
    ofBag bag' = ofBag bag := by
  have hmap := h.ofBag_eq_map id fun p hp => by
    apply ext_get?
    intro k
    simp only [id, get?_foldl_erase]
    split
    · rfl
    · next hk => exact hextra p hp k hk
  rw [hmap]
  cases ofBag bag with
  | error e => rfl
  | ok o => rfl

/-! ### Properties of others -/

section
variable (hk : ¬IsOwn bag k)
include hk

private theorem agree_of_not_isOwn (h : ∀ l, l ≠ k → bag'.get? l = bag.get? l) :
    Agree bag bag' := by
  refine ⟨h _ fun hl => hk (.inl hl.symm), fun p hp l hl _ => ?_⟩
  have hne : l ≠ k := by
    rintro rfl
    exact hk (isOwn_of_mem hp hl)
  rw [nonEmpty?, h l hne, nonEmpty?]

/-- A change of a property that is not read is the same change of what is kept. -/
theorem ofBag_eq_map_of_not_isOwn {f : PropertyBag → PropertyBag} (h : ∀ l, l ≠ k → bag'.get? l = bag.get? l)
    (hself : ∀ other, (f other).get? k = bag'.get? k)
    (hother : ∀ other l, l ≠ k → (f other).get? l = other.get? l) :
    ofBag bag' = (ofBag bag).map fun o => { o with extra := f o.extra } := by
  apply (agree_of_not_isOwn hk h).ofBag_eq_map f
  intro p hp
  apply ext_get?
  intro l
  by_cases hl : l = k
  · subst hl
    rw [get?_foldl_erase, if_neg fun hmem => hk (isOwn_of_mem hp hmem), hself]
  · rw [get?_foldl_erase, h l hl, hother _ l hl, get?_foldl_erase]

theorem ofBag_put_of_not_isOwn (v : String) :
    ofBag (bag.put k v) = (ofBag bag).map fun o => { o with extra := o.extra.put k v } := by
  apply ofBag_eq_map_of_not_isOwn hk (f := fun extra => extra.put k v)
  · exact fun l hl => get?_put_of_ne bag hl v
  · exact fun other => (get?_put_self other k v).trans (get?_put_self bag k v).symm
  · exact fun other l hl => get?_put_of_ne other hl v

theorem ofBag_erase_of_not_isOwn :
    ofBag (bag.erase k) = (ofBag bag).map fun o => { o with extra := o.extra.erase k } := by
  apply ofBag_eq_map_of_not_isOwn hk (f := fun extra => extra.erase k)
  · exact fun l hl => get?_erase_of_ne bag hl
  · exact fun other => (get?_erase_self other k).trans (get?_erase_self bag k).symm
  · exact fun other l hl => get?_erase_of_ne other hl

end

/-- The keys of a protocol start like no key that is read under the other one. -/
private theorem not_prefix_of_mem_recognizedKeys (hq : q ≠ p) :
    ∀ k ∈ recognizedKeys p, ¬(q.key "").toList <+: k.toList := by
  revert hq
  cases p <;> cases q <;> decide

/-- The settings of a protocol that is not selected are not read. -/
theorem not_isOwn_key (hp : Selects bag p) (hq : q ≠ p) (field : String) : ¬IsOwn bag (q.key field) := by
  have hprefix : (q.key "").toList <+: (q.key field).toList := ⟨field.toList, by simp [Protocol.key]⟩
  have hnot := not_prefix_of_mem_recognizedKeys hq
  rintro (hk | ⟨p', hp', hk⟩)
  · have hmem : protocolKey ∈ recognizedKeys p := by simp [recognizedKeys]
    exact hnot protocolKey hmem (hk ▸ hprefix)
  · obtain rfl := hp'.unique hp
    exact hnot _ hk hprefix

/-- A bag is refused exactly if the text of its protocol or a text among the settings of that protocol cannot
be read, and for the first of these; otherwise it stands for one value of options. Any other property can be
set or left out: it is kept or missing then, and all else is as it was. The settings of the protocol that is
not selected are such properties. -/
theorem ofBag_reads_own_keys_only (bag : PropertyBag) :
    ((∃ e, ofBag bag = .error e) ↔
        (∀ p, ¬Selects bag p) ∨ ∃ p, Selects bag p ∧ ∃ c ∈ checks p, c.Fails bag) ∧
      (∀ e, ofBag bag = .error e ↔ IsRefusedFor bag e) ∧
      (∀ o, ofBag bag = .ok o ↔ IsReadAs bag o) ∧
      (∀ k, ¬IsOwn bag k →
        (∀ v, ofBag (bag.put k v) = (ofBag bag).map fun o => { o with extra := o.extra.put k v }) ∧
          ofBag (bag.erase k) = (ofBag bag).map fun o => { o with extra := o.extra.erase k }) ∧
      ∀ p q field, Selects bag p → q ≠ p → ¬IsOwn bag (q.key field) := by
  refine ⟨?_, fun e => ofBag_eq_error_iff, fun o => ofBag_eq_ok_iff, fun k hk => ?_, ?_⟩
  · simp only [ofBag_eq_error_iff, exists_isRefusedFor_iff]
  · exact ⟨ofBag_put_of_not_isOwn hk, ofBag_erase_of_not_isOwn hk⟩
  · intro p q field hp hq
    exact not_isOwn_key hp hq field

def crossedBag : PropertyBag :=
  .ofPairs [("mail.transport.protocol", "SMTPS"), ("mail.smtps.port", "70000"),
    ("mail.smtps.auth", "maybe"), ("mail.smtp.port", "none")]

/-- The first fault is reported, with and without the setting of the other protocol. -/
theorem crossedBag_is_refused :
    IsRefusedFor crossedBag (.invalidProperty "mail.smtps.auth" (.unreadable "maybe")) ∧
      ¬IsOwn crossedBag "mail.smtp.port" ∧
      ofBag (crossedBag.erase "mail.smtp.port") =
        .error (.invalidProperty "mail.smtps.auth" (.unreadable "maybe")) := by
  have ⟨_, hrefused, _, hforeign, hother⟩ := ofBag_reads_own_keys_only crossedBag
  have hbag : ofBag crossedBag = .error (.invalidProperty "mail.smtps.auth" (.unreadable "maybe")) := by
    decide +kernel
  have hselects : Selects crossedBag .smtps := readProtocol_eq_ok_iff.1 (by decide +kernel)
  have hkey : ¬IsOwn crossedBag "mail.smtp.port" := hother .smtps .smtp "port" hselects (by decide)
  refine ⟨(hrefused _).1 hbag, hkey, ?_⟩
  rw [(hforeign _ hkey).2, hbag]
  rfl

end Mailroom.Options
