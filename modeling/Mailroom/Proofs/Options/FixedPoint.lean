import Mailroom.Proofs.Options.Reading
import Mailroom.Proofs.Options.Settling
import Mailroom.Proofs.Properties.Normal

/-! Options that were read from a bag: writing them into a bag and reading them changes nothing any
more. -/
namespace Mailroom.Options

open PropertyBag

variable {bag : PropertyBag} {o : Options}

/-- What options take from the bag that they are read from. -/
structure ReadFrom (bag : PropertyBag) (o : Options) : Prop where
  host : o.host = (nonEmpty? bag (hostKey o.protocol)).getD defaultHost
  starttls : o.protocol = .smtps → o.starttls = false
  user : o.user = nonEmpty? bag userKey
  password : o.password = nonEmpty? bag passwordKey
  timeout : ∃ t, readKey bag (timeoutKey o.protocol) readMillis? = .ok t ∧ o.timeout = t.getD defaultTimeout
  extra : o.extra = (recognizedKeys o.protocol).foldl erase bag

theorem readFrom_of_ofBag (h : ofBag bag = .ok o) : ReadFrom bag o := by
  have h := ofBag_eq_ok_iff.1 h
  obtain ⟨t, ht, htimeout⟩ := (exists_readKey_eq_ok_iff readMillis?_eq_some_iff).2 h.timeout
  refine ⟨h.host, ?_, h.user, h.password, ⟨t, ht, htimeout.symm⟩, ?_⟩
  · intro hp
    have hstarttls := h.starttls
    rw [hp] at hstarttls
    exact hstarttls
  · apply ext_get?
    intro k
    rw [h.extra, get?_foldl_erase]

theorem isProper_of_nonEmpty? (hbag : bag.IsNormal) {k v : String} (h : nonEmpty? bag k = some v) :
    Text.IsProper v := by
  rw [nonEmpty?, Option.filter_eq_some_iff] at h
  obtain ⟨hget, hempty⟩ := h
  exact ⟨(isNormal_iff.1 hbag k v hget).2, by simpa using hempty⟩

private theorem readKey_eq_ok {α : Type} {k : String} {read? : String → Option α} {x : Option α}
    (h : readKey bag k read? = .ok x) : x = none ∨ ∃ text, read? text = x := by
  unfold readKey at h
  split at h
  · exact .inl (Except.ok.inj h).symm
  · next text _ =>
    split at h
    · next hread =>
      right
      exact ⟨text, hread.trans (Except.ok.inj h)⟩
    · exact absurd h (by simp)

/-- The image of reading lies where writing loses nothing. -/
theorem ReadFrom.storable (h : ReadFrom bag o) (hbag : bag.IsNormal) : o.Storable := by
  refine ⟨?_, h.starttls, ?_, ?_, ?_, ?_⟩
  · rw [h.host]
    cases hhost : nonEmpty? bag (hostKey o.protocol) with
    | none => exact by decide
    | some host => exact isProper_of_nonEmpty? hbag hhost
  · intro user huser
    exact isProper_of_nonEmpty? hbag (h.user.symm.trans huser)
  · intro password hpassword
    exact isProper_of_nonEmpty? hbag (h.password.symm.trans hpassword)
  · obtain ⟨t, ht, htimeout⟩ := h.timeout
    cases t with
    | none => exact ⟨60000, by decide, htimeout⟩
    | some d =>
      rcases readKey_eq_ok ht with hnone | ⟨text, htext⟩
      · exact absurd hnone (by simp)
      · rw [readMillis?, Option.map_eq_some_iff] at htext
        obtain ⟨n, hn, rfl⟩ := htext
        exact ⟨n, Decimal.le_of_readUnsigned? hn, htimeout⟩
  · intro k hk
    rw [h.extra, get?_foldl_erase, if_pos hk]

/-- What options set is normal; so is their bag, if what they keep is. -/
theorem isNormal_toBag (h : o.extra.IsNormal) : o.toBag.IsNormal :=
  h.foldl_setIfNamed _

/-- What is kept of a normal bag is normal. -/
theorem ReadFrom.isNormal_extra (h : ReadFrom bag o) (hbag : bag.IsNormal) : o.extra.IsNormal := by
  rw [h.extra]
  exact hbag.foldl_erase _

theorem ReadFrom.isNormal_toBag (h : ReadFrom bag o) (hbag : bag.IsNormal) : o.toBag.IsNormal :=
  Options.isNormal_toBag (h.isNormal_extra hbag)

/-- A key that is not read is found where it was, with its value. -/
theorem ReadFrom.get?_toBag (h : ReadFrom bag o) {k : String} (hk : k ∉ recognizedKeys o.protocol) :
    o.toBag.get? k = bag.get? k := by
  rw [get?_toBag_of_not_recognized hk, h.extra, get?_foldl_erase, if_neg hk]

/-- Options that were read from a normal bag are read from their own bag as they are. -/
theorem ReadFrom.ofBag_toBag (h : ReadFrom bag o) (hbag : bag.IsNormal) : ofBag o.toBag = .ok o := by
  have hstorable := h.storable hbag
  rw [Options.ofBag_toBag, if_pos hstorable.millis_le, hstorable.settled_eq]

/-- They are read from the JSON of their bag as well. -/
theorem ReadFrom.ofJson_toJson (h : ReadFrom bag o) (hbag : bag.IsNormal) :
    ofJson o.toBag.toJson = .ok o := by
  rw [ofJson, (ofJson_toJson_eq_self_iff _).2 (h.isNormal_toBag hbag)]
  exact h.ofBag_toBag hbag

end Mailroom.Options
