import Mailroom.Proofs.Options.Requests
import Mailroom.Proofs.Options.Settling

/-! Options that are asked for one by one: what they come to, and what becomes of them in a bag. -/
namespace Mailroom.Options.Draft

open PropertyBag

variable {host : String} {requests : List Request}

/-- What a bag holds of the settings that were asked for, each in its last form. What was not asked for is
left open, but the protocol and the host are always there. -/
def askedFields (host : String) (requests : List Request) : List (String × Option String) :=
  let p := askedProtocol requests
  let login := lastAsked? Request.credentials? requests
  [ (protocolKey, some p.name),
    (hostKey p, some host),
    (portKey p, (lastAsked? Request.port? requests).map fun n => toString n.toNat),
    (authKey p, login.map fun _ => boolText true),
    (timeoutKey p, (lastAsked? Request.timeout? requests).map fun t => toString t.roundUp.millis),
    (userKey, login.map (·.1)),
    (passwordKey, login.map (·.2)) ] ++
  match p with
  | .smtp => [(starttlsKey, (lastAsked? Request.starttls? requests).map boolText)]
  | .smtps => []

def askedBag (host : String) (requests : List Request) : PropertyBag :=
  .ofPairs (askedProperties requests ++ presentPairs (askedFields host requests))

/-- Nothing that was asked for is changed by trimming or taken for a setting. -/
structure IsPlain (host : String) (requests : List Request) : Prop where
  host : Text.IsProper host
  credentials : ∀ login ∈ lastAsked? Request.credentials? requests,
    Text.IsProper login.1 ∧ Text.IsProper login.2
  properties : ∀ property ∈ askedProperties requests,
    Text.trim property.1 ∉ recognizedKeys (askedProtocol requests)

/-! ### The bag of what was asked for -/

private theorem keys_askedFields_perm (host : String) (requests : List Request) :
    ((askedFields host requests).map (·.1)).Perm (recognizedKeys (askedProtocol requests)) := by
  unfold askedFields
  cases askedProtocol requests with
  | smtp =>
    simp only [List.map_append, List.map_cons, List.map_nil]
    decide
  | smtps =>
    simp only [List.map_append, List.map_cons, List.map_nil]
    decide

/-- Properties that are not settings are kept out of the way of settings. -/
theorem IsPlain.get?_askedProperties (h : IsPlain host requests) {k : String}
    (hk : k ∈ recognizedKeys (askedProtocol requests)) :
    (ofPairs (askedProperties requests)).get? k = none := by
  rw [get?_ofPairs_eq_none_iff _ (isProper_of_mem_recognizedKeys k hk).2]
  rintro property hproperty rfl
  exact h.properties property hproperty hk

private theorem askedBag_eq (host : String) (requests : List Request) :
    askedBag host requests =
      (presentPairs (askedFields host requests)).foldl (fun bag (key, value) => bag.setIfNamed key value)
        (ofPairs (askedProperties requests)) :=
  List.foldl_append

theorem IsPlain.get?_askedBag (h : IsPlain host requests) {k : String} {value : Option String}
    (hmem : (k, value) ∈ askedFields host requests) :
    (askedBag host requests).get? k = value.map Text.trim := by
  have hperm := keys_askedFields_perm host requests
  have hrecognized : ∀ field ∈ askedFields host requests,
      field.1 ∈ recognizedKeys (askedProtocol requests) :=
    fun field hfield => hperm.subset (List.mem_map_of_mem hfield)
  have hnodup : (recognizedKeys (askedProtocol requests)).Nodup := by
    cases askedProtocol requests <;> decide
  rw [askedBag_eq, get?_foldl_presentPairs _
    (fun field hfield => isProper_of_mem_recognizedKeys _ (hrecognized field hfield))
    (hperm.nodup_iff.2 hnodup) hmem, h.get?_askedProperties (hrecognized _ hmem), Option.or_none]

theorem get?_askedBag_of_not_recognized {k : String}
    (hk : k ∉ recognizedKeys (askedProtocol requests)) :
    (askedBag host requests).get? k = (ofPairs (askedProperties requests)).get? k := by
  have hperm := keys_askedFields_perm host requests
  have hsub := (keys_presentPairs_sublist (askedFields host requests)).subset
  rw [askedBag_eq, get?_foldl_of_not_mem]
  · intro pair hpair
    exact isProper_of_mem_recognizedKeys _ (hperm.subset (hsub (List.mem_map_of_mem hpair)))
  · intro hmem
    exact hk (hperm.subset (hsub hmem))

/-! ### Reading it -/

section
variable {bag : PropertyBag} {k : String}

private theorem nonEmpty?_of_get? {value : Option String} (h : bag.get? k = value.map Text.trim)
    (hvalue : ∀ text, value = some text → Text.IsProper text) : nonEmpty? bag k = value := by
  cases value with
  | none => rw [nonEmpty?, h]; rfl
  | some text =>
    have hproper := hvalue text rfl
    simp [nonEmpty?, h, hproper.1, hproper.2, Option.filter]

/-- A value that was written is read, and so is one that was left open. -/
private theorem readKey_of_get? {α : Type} {read? : String → Option α} (write : α → String)
    {value : Option α} (h : bag.get? k = (value.map write).map Text.trim)
    (hvalue : ∀ a, value = some a → Text.IsProper (write a) ∧ read? (write a) = some a) :
    readKey bag k read? = .ok value := by
  have htext : ∀ text, value.map write = some text → Text.IsProper text := by
    intro text htext
    obtain ⟨a, ha, rfl⟩ := Option.map_eq_some_iff.1 htext
    exact (hvalue a ha).1
  rw [readKey, nonEmpty?_of_get? h htext]
  cases value with
  | none => rfl
  | some a => simp [(hvalue a rfl).2]

end

private theorem roundUp_eq (t : Duration) :
    ∃ n ≤ Decimal.maxWord64, t.roundUp = .ofMillis n :=
  ⟨_, Nat.min_le_left _ _, rfl⟩

theorem readMillis?_roundUp (t : Duration) : readMillis? (toString t.roundUp.millis) = some t.roundUp := by
  obtain ⟨n, hn, ht⟩ := roundUp_eq t
  rw [ht, millis_ofMillis, readMillis?_toString, if_pos hn]

section
variable (h : IsPlain host requests)
include h

private theorem readProtocol_askedBag :
    readProtocol (askedBag host requests) = .ok (askedProtocol requests) := by
  have hmem : (protocolKey, some (askedProtocol requests).name) ∈ askedFields host requests := by
    simp [askedFields]
  rw [readProtocol, h.get?_askedBag hmem]
  cases askedProtocol requests <;> rfl

private theorem nonEmpty?_host_askedBag :
    nonEmpty? (askedBag host requests) (hostKey (askedProtocol requests)) = some host := by
  have hmem : (hostKey (askedProtocol requests), some host) ∈ askedFields host requests := by
    simp [askedFields]
  apply nonEmpty?_of_get? (h.get?_askedBag hmem)
  rintro _ ⟨⟩
  exact h.host

private theorem readKey_auth_askedBag :
    readKey (askedBag host requests) (authKey (askedProtocol requests)) readBool? =
      .ok ((lastAsked? Request.credentials? requests).map fun _ => true) := by
  have hmem : (authKey (askedProtocol requests),
      ((lastAsked? Request.credentials? requests).map fun _ => true).map boolText) ∈
        askedFields host requests := by
    simp [askedFields, Function.comp_def]
  apply readKey_of_get? boolText (h.get?_askedBag hmem)
  intro b _
  exact ⟨by cases b <;> decide, readBool?_boolText b⟩

private theorem readKey_starttls_askedBag (hp : askedProtocol requests = .smtp) :
    readKey (askedBag host requests) starttlsKey readBool? =
      .ok (lastAsked? Request.starttls? requests) := by
  have hmem : (starttlsKey, (lastAsked? Request.starttls? requests).map boolText) ∈
      askedFields host requests := by
    simp [askedFields, hp]
  apply readKey_of_get? boolText (h.get?_askedBag hmem)
  intro b _
  exact ⟨by cases b <;> decide, readBool?_boolText b⟩

private theorem readKey_timeout_askedBag :
    readKey (askedBag host requests) (timeoutKey (askedProtocol requests)) readMillis? =
      .ok ((lastAsked? Request.timeout? requests).map Duration.roundUp) := by
  have hmem : (timeoutKey (askedProtocol requests),
      ((lastAsked? Request.timeout? requests).map Duration.roundUp).map fun t => toString t.millis) ∈
        askedFields host requests := by
    simp [askedFields, Function.comp_def]
  apply readKey_of_get? _ (h.get?_askedBag hmem)
  intro t ht
  obtain ⟨t, -, rfl⟩ := Option.map_eq_some_iff.1 ht
  exact ⟨Decimal.isProper_toString _, readMillis?_roundUp t⟩

private theorem readKey_port_askedBag :
    readKey (askedBag host requests) (portKey (askedProtocol requests)) readPort? =
      .ok (lastAsked? Request.port? requests) := by
  have hmem : (portKey (askedProtocol requests),
      (lastAsked? Request.port? requests).map fun n => toString n.toNat) ∈ askedFields host requests := by
    simp [askedFields]
  apply readKey_of_get? _ (h.get?_askedBag hmem)
  intro n _
  exact ⟨Decimal.isProper_toString _, readPort?_toString n⟩

private theorem nonEmpty?_login_askedBag {k : String} {part : String × String → String}
    (hmem : (k, (lastAsked? Request.credentials? requests).map part) ∈ askedFields host requests)
    (hpart : ∀ login, lastAsked? Request.credentials? requests = some login → Text.IsProper (part login)) :
    nonEmpty? (askedBag host requests) k = (lastAsked? Request.credentials? requests).map part := by
  apply nonEmpty?_of_get? (h.get?_askedBag hmem)
  intro text htext
  obtain ⟨login, hlogin, rfl⟩ := Option.map_eq_some_iff.1 htext
  exact hpart login hlogin

private theorem foldl_erase_askedBag :
    (recognizedKeys (askedProtocol requests)).foldl erase (askedBag host requests) =
      ofPairs (askedProperties requests) := by
  apply ext_get?
  intro k
  rw [get?_foldl_erase]
  split
  · next hk => exact (h.get?_askedProperties hk).symm
  · next hk => exact get?_askedBag_of_not_recognized hk

/-- Options that are asked for are those that are read from the bag of what was asked for. -/
theorem IsPlain.ofBag_askedBag :
    ofBag (askedBag host requests) = .ok (ofRequests host requests).finish := by
  have hprotocol := readProtocol_askedBag h
  have hhost := nonEmpty?_host_askedBag h
  have hauth := readKey_auth_askedBag h
  have hstarttls := readKey_starttls_askedBag h
  have htimeout := readKey_timeout_askedBag h
  have hport := readKey_port_askedBag h
  have huser : nonEmpty? (askedBag host requests) userKey =
      (lastAsked? Request.credentials? requests).map (·.1) :=
    nonEmpty?_login_askedBag h (by simp [askedFields]) fun login hlogin =>
      (h.credentials login hlogin).1
  have hpassword : nonEmpty? (askedBag host requests) passwordKey =
      (lastAsked? Request.credentials? requests).map (·.2) :=
    nonEmpty?_login_askedBag h (by simp [askedFields]) fun login hlogin =>
      (h.credentials login hlogin).2
  have hextra := foldl_erase_askedBag h
  simp only [ofBag, hprotocol, bind, Except.bind, hauth, htimeout, hport, hhost, huser, hpassword, hextra,
    ofRequests_eq, finish]
  have hlogin : ((lastAsked? Request.credentials? requests).map fun _ => true).getD false =
      (lastAsked? Request.credentials? requests).isSome := by
    cases lastAsked? Request.credentials? requests <;> rfl
  cases hp : askedProtocol requests with
  | smtp => simp [hstarttls hp, hlogin, pure, Except.pure]
  | smtps => simp [hlogin, securityOf, pure, Except.pure]

end

def relayRequests : List Request :=
  [.starttls true, .property " mail.smtp.host" "other ", .timeout ⟨1500000⟩, .protocol .smtps,
    .credentials "me" "secret", .property " " "nothing"]

def relayOptions : Options :=
  { protocol := .smtps
    host := "mail.example.com"
    port := 465
    starttls := false
    auth := true
    user := some "me"
    password := some "secret"
    timeout := .ofMillis 2
    extra := .ofPairs [("mail.smtp.host", "other")] }

theorem relayRequests_are_plain :
    askedBag "mail.example.com" relayRequests = .ofPairs
        [ ("mail.smtp.host", "other"), ("mail.transport.protocol", "smtps"),
          ("mail.smtps.host", "mail.example.com"), ("mail.smtps.auth", "true"), ("mail.user", "me"),
          ("mail.password", "secret"), ("mail.smtps.connectiontimeout", "2") ] ∧
      IsPlain "mail.example.com" relayRequests ∧
      (ofRequests "mail.example.com" relayRequests).finish = relayOptions ∧
      ofBag (askedBag "mail.example.com" relayRequests) = .ok relayOptions := by
  have hplain : IsPlain "mail.example.com" relayRequests :=
    ⟨by decide +kernel, by decide +kernel, by decide +kernel⟩
  have hfinish : (ofRequests "mail.example.com" relayRequests).finish = relayOptions := by
    decide +kernel
  refine ⟨by decide +kernel, hplain, hfinish, ?_⟩
  rw [← hfinish]
  exact hplain.ofBag_askedBag

/-! ### Storing it -/

private theorem exists_timeout_finish (host : String) (requests : List Request) :
    ∃ n ≤ Decimal.maxWord64, (ofRequests host requests).finish.timeout = .ofMillis n := by
  rw [ofRequests_eq]
  cases htimeout : lastAsked? Request.timeout? requests with
  | none => exact ⟨60000, by decide, rfl⟩
  | some t => exact roundUp_eq t

/-- Options that were asked for lose nothing in a bag exactly if nothing that was asked for is changed by
trimming or taken for a setting. -/
theorem storable_finish_iff : (ofRequests host requests).finish.Storable ↔ IsPlain host requests := by
  constructor
  · intro h
    refine ⟨host_finish_ofRequests host requests ▸ h.host, ?_, ?_⟩
    · intro login hlogin
      have hlogin := Option.mem_def.1 hlogin
      exact ⟨h.user login.1 (by simp [hlogin]), h.password login.2 (by simp [hlogin])⟩
    · intro property hproperty hk
      have hnone := h.extra (Text.trim property.1) (by simpa using hk)
      rw [extra_finish_ofRequests,
        get?_ofPairs_eq_none_iff _ (isProper_of_mem_recognizedKeys _ hk).2] at hnone
      exact hnone property hproperty rfl
  · intro h
    refine ⟨(host_finish_ofRequests host requests).symm ▸ h.host, starttls_finish_of_smtps, ?_, ?_,
      exists_timeout_finish host requests, ?_⟩
    · intro user huser
      rw [user_finish_ofRequests] at huser
      obtain ⟨login, hlogin, rfl⟩ := Option.map_eq_some_iff.1 huser
      exact (h.credentials login hlogin).1
    · intro password hpassword
      rw [password_finish_ofRequests] at hpassword
      obtain ⟨login, hlogin, rfl⟩ := Option.map_eq_some_iff.1 hpassword
      exact (h.credentials login hlogin).2
    · intro k hk
      rw [protocol_finish_ofRequests] at hk
      rw [extra_finish_ofRequests]
      exact h.get?_askedProperties hk

/-- Options that were asked for are always read from their bag. Their protocol, port, upgrade and time-out
are found there, and whether they log in; and all the rest is found exactly if nothing that was asked for is
changed by trimming or taken for a setting. -/
theorem ofBag_toBag_finish_iff_isPlain (host : String) (requests : List Request) :
    ∃ o, ofBag (ofRequests host requests).finish.toBag = .ok o ∧
      o.protocol = (ofRequests host requests).finish.protocol ∧
      o.port = (ofRequests host requests).finish.port ∧
      o.starttls = (ofRequests host requests).finish.starttls ∧
      o.timeout = (ofRequests host requests).finish.timeout ∧
      o.auth = (ofRequests host requests).finish.auth ∧
      (o = (ofRequests host requests).finish ↔ IsPlain host requests) := by
  obtain ⟨n, hn, htimeout⟩ := exists_timeout_finish host requests
  have hmillis : (ofRequests host requests).finish.timeout.millis = n := by
    rw [htimeout, millis_ofMillis]
  refine ⟨(ofRequests host requests).finish.settled, ?_, rfl, rfl, ?_, ?_, rfl, ?_⟩
  · rw [ofBag_toBag, hmillis, if_pos hn]
  · cases hp : (ofRequests host requests).finish.protocol with
    | smtp => simp only [settled, hp]
    | smtps => simp only [settled, hp, starttls_finish_of_smtps hp]
  · simp only [settled, htimeout, millis_ofMillis]
  · rw [← storable_finish_iff, ← settled_eq_self_iff, hmillis]
    exact (and_iff_left hn).symm

def blankLogin : Options := (ofRequests "mail.example.com" [.credentials "me" " "]).finish

/-- A blank password is lost in a bag, and what is read from there cannot log in. -/
theorem blankLogin_is_not_stored :
    blankLogin.problems = [] ∧ ofBag blankLogin.toBag ≠ .ok blankLogin ∧
      ∃ o, ofBag blankLogin.toBag = .ok o ∧ o.password = none ∧ o.problems = [.missingPassword] := by
  have hread : ofBag blankLogin.toBag = .ok blankLogin.settled := by
    rw [ofBag_toBag, if_pos (by decide +kernel)]
  have hpassword : blankLogin.settled.password = none := by decide +kernel
  refine ⟨by decide +kernel, ?_, _, hread, hpassword, by decide +kernel⟩
  intro h
  have hsame := congrArg Options.password (Except.ok.inj (hread.symm.trans h))
  rw [hpassword] at hsame
  exact nomatch hsame

end Mailroom.Options.Draft
