import Mailroom.Options.Bag
import Mailroom.Proofs.Decimal.Unsigned
import Mailroom.Proofs.Outcome
import Mailroom.Proofs.Properties.Lookup

/-! Options that are written into a bag and read back from it. -/
namespace Mailroom.Options

open PropertyBag

/-! ### Keys -/

theorem isProper_of_mem_recognizedKeys {p : Protocol} :
    ∀ k ∈ recognizedKeys p, Text.IsProper k := by
  cases p <;> decide

def settingKeys (p : Protocol) : List String :=
  [protocolKey, hostKey p, portKey p, authKey p] ++
    (match p with
    | .smtp => [starttlsKey]
    | .smtps => []) ++
    [timeoutKey p] ++ [userKey] ++ [passwordKey]

private theorem settingKeys_subset (p : Protocol) : ∀ k ∈ settingKeys p, k ∈ recognizedKeys p := by
  cases p <;> decide

private theorem keys_settings_sublist (o : Options) :
    (o.settings.map (·.1)).Sublist (settingKeys o.protocol) := by
  have hoption : ∀ (key : String) (value : Option String),
      ((value.map (key, ·)).toList.map (·.1)).Sublist [key] := by
    intro key value
    cases value <;> simp
  simp only [settings, settingKeys, List.map_append]
  refine .append (.append (.append ?_ (.refl _)) (hoption _ _)) (hoption _ _)
  cases o.protocol
  · exact .refl _
  · exact .refl _

private theorem nodup_settings (o : Options) : (o.settings.map (·.1)).Nodup := by
  have hnodup : (settingKeys o.protocol).Nodup := by cases o.protocol <;> decide
  exact (keys_settings_sublist o).nodup hnodup

theorem mem_recognizedKeys_of_mem_settings {o : Options} {s : String × String} (h : s ∈ o.settings) :
    s.1 ∈ recognizedKeys o.protocol :=
  settingKeys_subset _ _ ((keys_settings_sublist o).subset (List.mem_map_of_mem h))

section
variable {o : Options} {k value : String}

/-- What options set is found in their bag, without blanks around it. -/
theorem get?_toBag_of_mem (h : (k, value) ∈ o.settings) : o.toBag.get? k = some (Text.trim value) :=
  get?_foldl_of_mem _ (fun _ hs => isProper_of_mem_recognizedKeys _ (mem_recognizedKeys_of_mem_settings hs))
    (nodup_settings o) h

/-- What options do not set is found as it was kept. -/
theorem get?_toBag_of_not_mem (h : k ∉ o.settings.map (·.1)) : o.toBag.get? k = o.extra.get? k :=
  get?_foldl_of_not_mem _
    (fun _ hs => isProper_of_mem_recognizedKeys _ (mem_recognizedKeys_of_mem_settings hs)) h

theorem get?_toBag_of_not_recognized (h : k ∉ recognizedKeys o.protocol) :
    o.toBag.get? k = o.extra.get? k := by
  apply get?_toBag_of_not_mem
  intro hk
  obtain ⟨s, hs, rfl⟩ := List.mem_map.1 hk
  exact h (mem_recognizedKeys_of_mem_settings hs)

end

/-! ### Values -/

theorem readBool?_boolText (b : Bool) : readBool? (boolText b) = some b := by
  cases b <;> decide

theorem readPort?_toString (port : UInt16) : readPort? (toString port.toNat) = some port := by
  have hle : port.toNat ≤ Decimal.maxWord16 := Nat.le_of_lt_succ port.toNat_lt
  rw [readPort?, Decimal.readUnsigned?_toString, if_pos hle, Option.map_some, UInt16.ofNat_toNat]

theorem readMillis?_toString (n : Nat) :
    readMillis? (toString n) = if n ≤ Decimal.maxWord64 then some (.ofMillis n) else none := by
  unfold readMillis?
  rw [Decimal.readUnsigned?_toString]
  split
  · rfl
  · rfl

section
variable {o : Options} {k value : String} {α : Type}

/-- A value that options set is read, if it is one that blanks do not matter to. -/
theorem readKey_toBag (h : (k, value) ∈ o.settings) (hvalue : Text.IsProper value) (read? : String → Option α) :
    readKey o.toBag k read? =
      match read? value with
      | some x => .ok (some x)
      | none => .error (.invalidProperty k (.unreadable value)) := by
  have hempty : value.isEmpty = false := by simpa using hvalue.2
  simp only [readKey, nonEmpty?, get?_toBag_of_mem h, hvalue.1, Option.filter, hempty]
  rfl

end

def settled (o : Options) : Options where
  protocol := o.protocol
  host := if Text.trim o.host = "" then defaultHost else Text.trim o.host
  port := o.port
  starttls := match o.protocol with
    | .smtp => o.starttls
    | .smtps => false
  auth := o.auth
  user := ((o.user.map Text.trim).or (o.extra.get? userKey)).filter (!·.isEmpty)
  password := ((o.password.map Text.trim).or (o.extra.get? passwordKey)).filter (!·.isEmpty)
  timeout := .ofMillis o.timeout.millis
  extra := (recognizedKeys o.protocol).foldl erase o.extra

section
variable (o : Options)

private theorem readProtocol_toBag : readProtocol o.toBag = .ok o.protocol := by
  have hmem : (protocolKey, o.protocol.name) ∈ o.settings := by simp [settings]
  rw [readProtocol, get?_toBag_of_mem hmem]
  cases o.protocol <;> rfl

private theorem readKey_auth_toBag :
    readKey o.toBag (authKey o.protocol) readBool? = .ok (some o.auth) := by
  have hproper : ∀ b, Text.IsProper (boolText b) := by decide
  rw [readKey_toBag (by simp [settings]) (hproper o.auth), readBool?_boolText]

private theorem readKey_starttls_toBag (h : o.protocol = .smtp) :
    readKey o.toBag starttlsKey readBool? = .ok (some o.starttls) := by
  have hproper : ∀ b, Text.IsProper (boolText b) := by decide
  rw [readKey_toBag (by simp [settings, h]) (hproper o.starttls), readBool?_boolText]

private theorem readKey_port_toBag :
    readKey o.toBag (portKey o.protocol) readPort? = .ok (some o.port) := by
  have hmem : (portKey o.protocol, toString o.port.toNat) ∈ o.settings := by simp [settings]
  rw [readKey_toBag hmem (Decimal.isProper_toString _), readPort?_toString]

private theorem readKey_timeout_toBag :
    readKey o.toBag (timeoutKey o.protocol) readMillis? =
      if o.timeout.millis ≤ Decimal.maxWord64 then .ok (some (.ofMillis o.timeout.millis))
      else .error (.invalidProperty (timeoutKey o.protocol) (.unreadable (toString o.timeout.millis))) := by
  have hmem : (timeoutKey o.protocol, toString o.timeout.millis) ∈ o.settings := by simp [settings]
  rw [readKey_toBag hmem (Decimal.isProper_toString _), readMillis?_toString]
  by_cases hle : o.timeout.millis ≤ Decimal.maxWord64
  · simp [hle]
  · simp [hle]

/-- What options may leave open is found as they set it, or else as it was kept. -/
private theorem get?_toBag_of_optional {k : String} {value : Option String}
    (hsome : ∀ v, value = some v → (k, v) ∈ o.settings)
    (hnone : value = none → k ∉ o.settings.map (·.1)) :
    o.toBag.get? k = (value.map Text.trim).or (o.extra.get? k) := by
  cases value with
  | none => exact get?_toBag_of_not_mem (hnone rfl)
  | some v => exact get?_toBag_of_mem (hsome v rfl)

private theorem get?_user_toBag :
    o.toBag.get? userKey = (o.user.map Text.trim).or (o.extra.get? userKey) := by
  apply get?_toBag_of_optional
  · intro user huser
    simp [settings, huser]
  · intro huser
    cases hp : o.protocol <;> cases hother : o.password <;> simp [settings, huser, hp, hother] <;> decide

private theorem get?_password_toBag :
    o.toBag.get? passwordKey = (o.password.map Text.trim).or (o.extra.get? passwordKey) := by
  apply get?_toBag_of_optional
  · intro password hpassword
    simp [settings, hpassword]
  · intro hpassword
    cases hp : o.protocol <;> cases hother : o.user <;> simp [settings, hpassword, hp, hother] <;> decide

private theorem foldl_erase_toBag :
    (recognizedKeys o.protocol).foldl erase o.toBag = (recognizedKeys o.protocol).foldl erase o.extra := by
  apply ext_get?
  intro k
  rw [get?_foldl_erase, get?_foldl_erase]
  split
  · rfl
  · next hk => exact get?_toBag_of_not_recognized hk

end

/-- Options are read from their bag unless they wait for longer than can be read. -/
theorem ofBag_toBag (o : Options) :
    ofBag o.toBag =
      if o.timeout.millis ≤ Decimal.maxWord64 then .ok o.settled
      else .error (.invalidProperty (timeoutKey o.protocol) (.unreadable (toString o.timeout.millis))) := by
  have hhost : (nonEmpty? o.toBag (hostKey o.protocol)).getD defaultHost = o.settled.host := by
    have hmem : (hostKey o.protocol, o.host) ∈ o.settings := by simp [settings]
    simp only [nonEmpty?, get?_toBag_of_mem hmem, settled, Option.filter]
    by_cases hempty : Text.trim o.host = ""
    · simp [hempty]
    · simp [hempty]
  have huser : nonEmpty? o.toBag userKey = o.settled.user := by
    rw [nonEmpty?, get?_user_toBag, settled]
  have hpassword : nonEmpty? o.toBag passwordKey = o.settled.password := by
    rw [nonEmpty?, get?_password_toBag, settled]
  -- The upgrade is written and read under one of the protocols only.
  have hstarttls : ∀ _ : o.protocol = .smtp, readKey o.toBag starttlsKey readBool? =
      .ok (some o.starttls) := readKey_starttls_toBag o
  have hauth := readKey_auth_toBag o
  have hport := readKey_port_toBag o
  have htimeout := readKey_timeout_toBag o
  have hextra := foldl_erase_toBag o
  simp only [ofBag, readProtocol_toBag, bind, Except.bind, hauth, hport, htimeout, hhost, huser,
    hpassword, hextra]
  cases hp : o.protocol with
  | smtp =>
    simp only [hstarttls hp]
    by_cases hle : o.timeout.millis ≤ Decimal.maxWord64
    · simp [hle, settled, hp, pure, Except.pure]
    · simp only [hle, if_false]
  | smtps =>
    by_cases hle : o.timeout.millis ≤ Decimal.maxWord64
    · simp [hle, settled, hp, pure, Except.pure]
    · simp only [hle, if_false]
      rfl

/-! ### What is read as it was written -/

/-- The options lose nothing in a bag. -/
structure Storable (o : Options) : Prop where
  host : Text.IsProper o.host
  starttls : o.protocol = .smtps → o.starttls = false
  user : ∀ user, o.user = some user → Text.IsProper user
  password : ∀ password, o.password = some password → Text.IsProper password
  timeout : ∃ n ≤ Decimal.maxWord64, o.timeout = .ofMillis n
  extra : ∀ k ∈ recognizedKeys o.protocol, o.extra.get? k = none

theorem millis_ofMillis (n : Nat) : (Duration.ofMillis n).millis = n := by
  simp [Duration.millis, Duration.ofMillis]

/-- What is kept is the same exactly if there is nothing that would be read. -/
private theorem foldl_erase_eq_self_iff (bag : PropertyBag) (keys : List String) :
    keys.foldl erase bag = bag ↔ ∀ k ∈ keys, bag.get? k = none := by
  constructor
  · intro h k hk
    rw [← h, get?_foldl_erase, if_pos hk]
  · intro h
    apply ext_get?
    intro k
    rw [get?_foldl_erase]
    split
    · next hk => exact (h k hk).symm
    · rfl

/-- A text that is trimmed, or put in place of one that is absent, stays the same if it is proper. -/
private theorem filter_trim_eq_self_iff (s : Option String) :
    (s.map Text.trim).filter (!·.isEmpty) = s ↔ ∀ t, s = some t → Text.IsProper t := by
  cases s with
  | none => simp
  | some t =>
    by_cases hempty : Text.trim t = ""
    · have hnot : ¬Text.IsProper t := fun h => h.2 (h.1.symm.trans hempty)
      simp [Option.filter, hempty, hnot]
    · have hne : Text.trim t = t → t ≠ "" := by
        intro h he
        exact hempty (h.trans he)
      simpa [Option.filter, hempty, Text.IsProper] using hne

private theorem userKey_mem_recognizedKeys (p : Protocol) : userKey ∈ recognizedKeys p := by
  cases p <;> decide

private theorem passwordKey_mem_recognizedKeys (p : Protocol) : passwordKey ∈ recognizedKeys p := by
  cases p <;> decide

private theorem storable_of_settled_eq {o : Options} (h : o.settled = o)
    (hle : o.timeout.millis ≤ Decimal.maxWord64) :
    o.Storable := by
  have hextra := (foldl_erase_eq_self_iff _ _).1 (congrArg Options.extra h)
  refine ⟨?_, ?_, ?_, ?_, ?_, hextra⟩
  · have hhost := congrArg Options.host h
    simp only [settled] at hhost
    split at hhost
    · next hempty =>
      rw [← hhost] at hempty
      exact absurd hempty (by decide)
    · next hne => exact ⟨hhost, hhost ▸ hne⟩
  · intro hp
    have hstarttls := congrArg Options.starttls h
    simpa [settled, hp] using hstarttls.symm
  · have huser := congrArg Options.user h
    simp only [settled, hextra _ (userKey_mem_recognizedKeys _), Option.or_none] at huser
    exact (filter_trim_eq_self_iff _).1 huser
  · have hpassword := congrArg Options.password h
    simp only [settled, hextra _ (passwordKey_mem_recognizedKeys _), Option.or_none] at hpassword
    exact (filter_trim_eq_self_iff _).1 hpassword
  · exact ⟨_, hle, (congrArg Options.timeout h).symm⟩

theorem Storable.millis_le {o : Options} (h : o.Storable) : o.timeout.millis ≤ Decimal.maxWord64 := by
  obtain ⟨n, hn, htimeout⟩ := h.timeout
  rwa [htimeout, millis_ofMillis]

theorem Storable.settled_eq {o : Options} (h : o.Storable) : o.settled = o := by
  have hhost : (if Text.trim o.host = "" then defaultHost else Text.trim o.host) = o.host := by
    rw [h.host.1, if_neg h.host.2]
  have hstarttls : (match o.protocol with
      | .smtp => o.starttls
      | .smtps => false) = o.starttls := by
    cases hp : o.protocol with
    | smtp => rfl
    | smtps => exact (h.starttls hp).symm
  have huser := (filter_trim_eq_self_iff _).2 h.user
  have hpassword := (filter_trim_eq_self_iff _).2 h.password
  have htimeout : Duration.ofMillis o.timeout.millis = o.timeout := by
    obtain ⟨n, -, hn⟩ := h.timeout
    rw [hn, millis_ofMillis]
  have hextra := (foldl_erase_eq_self_iff _ _).2 h.extra
  simp only [settled, hhost, hstarttls, h.extra _ (userKey_mem_recognizedKeys _),
    h.extra _ (passwordKey_mem_recognizedKeys _), Option.or_none, huser, hpassword, htimeout, hextra]

theorem settled_eq_self_iff (o : Options) :
    o.settled = o ∧ o.timeout.millis ≤ Decimal.maxWord64 ↔ o.Storable := by
  constructor
  · rintro ⟨h, hle⟩
    exact storable_of_settled_eq h hle
  · intro h
    exact ⟨h.settled_eq, h.millis_le⟩

/-- Options are read from their bag as they were exactly if they are storable; they are refused exactly
if they wait for more milliseconds than sixty-four bits hold, and then for that. -/
theorem ofBag_toBag_eq_self_iff (o : Options) :
    (ofBag o.toBag = .ok o ↔ o.Storable) ∧
      ((∃ e, ofBag o.toBag = .error e) ↔ Decimal.maxWord64 < o.timeout.millis) ∧
      ∀ e, ofBag o.toBag = .error e →
        e = .invalidProperty (timeoutKey o.protocol) (.unreadable (toString o.timeout.millis)) := by
  rw [ofBag_toBag, ← settled_eq_self_iff]
  by_cases hle : o.timeout.millis ≤ Decimal.maxWord64
  · have hnot : ¬Decimal.maxWord64 < o.timeout.millis := Nat.not_lt.2 hle
    simp [hle, hnot]
  · have hlt : Decimal.maxWord64 < o.timeout.millis := Nat.lt_of_not_le hle
    simp [hle, hlt]

end Mailroom.Options
