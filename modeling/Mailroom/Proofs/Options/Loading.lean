import Mailroom.Proofs.Options.Reading
import Mailroom.Proofs.Options.Variables
import Mailroom.Proofs.Text.Trimming

/-! The options that the environment asks for, variable by variable: each variable is the value of a field, or
is kept because it is for the other protocol. -/
namespace Mailroom.Options

open PropertyBag

def variableNames : List String :=
  ["TRANSPORT_PROTOCOL", "USERNAME", "PASSWORD", "SMTP_HOST", "SMTP_PORT", "SMTP_AUTH", "SMTP_STARTTLS",
    "SMTPS_HOST", "SMTPS_PORT", "SMTPS_AUTH", "TIMEOUT_MS"]

def variableOf : Protocol → String → String
  | .smtp, field => "SMTP_" ++ field
  | .smtps, field => "SMTPS_" ++ field

def protocolVariables (p : Protocol) : List (String × String) :=
  [(hostKey p, variableOf p "HOST"), (portKey p, variableOf p "PORT"), (authKey p, variableOf p "AUTH")] ++
    match p with
    | .smtp => [(starttlsKey, variableOf .smtp "STARTTLS")]
    | .smtps => []

def filled? (lookup : String → Option String) (name : String) : Option String :=
  ((lookup (variableName name)).map Text.trim).filter fun s => !s.isEmpty

/-- The variable that decides on the upgrade of a connection, which only one protocol knows. -/
def starttlsVariable? (lookup : String → Option String) : Protocol → Option String
  | .smtp => filled? lookup (variableOf .smtp "STARTTLS")
  | .smtps => none

/-- The variables ask for the options: each field is what its variable says, or the default if that is not set
or blank, and the variables of the other protocol are kept, and nothing else. -/
structure IsLoaded (lookup : String → Option String) (o : Options) : Prop where
  protocol : Gives (lookup (variableName "TRANSPORT_PROTOCOL")) (fun text p => p.IsNamed text) .smtp o.protocol
  host : o.host = (filled? lookup (variableOf o.protocol "HOST")).getD defaultHost
  auth : Gives (filled? lookup (variableOf o.protocol "AUTH")) IsTruth false o.auth
  starttls : Gives (starttlsVariable? lookup o.protocol) IsTruth false o.starttls
  user : o.user = filled? lookup "USERNAME"
  password : o.password = filled? lookup "PASSWORD"
  timeout : Gives (filled? lookup "TIMEOUT_MS") IsMillis defaultTimeout o.timeout
  port : Gives (filled? lookup (variableOf o.protocol "PORT")) IsPort o.security.defaultPort o.port
  extra : ∀ k v, o.extra.get? k = some v ↔
    ∃ p name text, p ≠ o.protocol ∧ (k, name) ∈ protocolVariables p ∧
      lookup (variableName name) = some text ∧ v = Text.trim text

variable {lookup lookup' : String → Option String} {o : Options} {p q : Protocol} {k v name : String}

/-! ### The variables that are looked up -/

private theorem map_snd_environmentKeys (protocol : Option String) :
    (environmentKeys protocol).map (·.2) = variableNames := rfl

/-- Nothing but the variables of the eleven names makes a difference to the bag. -/
theorem environmentBag_congr
    (h : ∀ name ∈ variableNames, lookup' (variableName name) = lookup (variableName name)) :
    environmentBag lookup' = environmentBag lookup := by
  have hprotocol := h "TRANSPORT_PROTOCOL" (by decide)
  simp only [environmentBag, hprotocol]
  refine congrArg ofPairs (List.filterMap_congr ?_)
  rintro ⟨key, name⟩ hmem
  have hname : name ∈ variableNames :=
    map_snd_environmentKeys _ ▸ List.mem_map_of_mem (f := (·.2)) hmem
  simp only [h name hname]

/-! ### The bag of the variables -/

private theorem selects_environmentBag_iff :
    Selects (environmentBag lookup) p ↔
      Gives (lookup (variableName "TRANSPORT_PROTOCOL")) (fun text p => p.IsNamed text) .smtp p := by
  have hget : (environmentBag lookup).get? protocolKey =
      (lookup (variableName "TRANSPORT_PROTOCOL")).map Text.trim :=
    get?_environmentBag (by simp [environmentKeys])
  unfold Selects Gives
  rw [hget]
  cases lookup (variableName "TRANSPORT_PROTOCOL") with
  | none => rfl
  | some text => simp [Protocol.IsNamed, Text.keyword]

private theorem variablesProtocol_of_selects (hp : Selects (environmentBag lookup) p) :
    variablesProtocol lookup = p := by
  rw [selects_environmentBag_iff] at hp
  unfold variablesProtocol
  cases hvariable : lookup (variableName "TRANSPORT_PROTOCOL") with
  | none =>
    simp only [hvariable, Gives] at hp
    exact hp.symm
  | some text =>
    simp only [hvariable, Gives] at hp
    simp only [Option.map_some, Protocol.parse_eq_ok_iff.2 hp]

/-- The keys of the variables, once the protocol is known. -/
private theorem environmentKeys_of_selects (hp : Selects (environmentBag lookup) p) :
    environmentKeys (lookup (variableName "TRANSPORT_PROTOCOL")) = environmentKeys (some p.name) := by
  have hname : environmentTimeoutKey (some p.name) = timeoutKey p := by
    cases p <;> decide
  simp only [environmentKeys, environmentTimeoutKey_eq, variablesProtocol_of_selects hp, hname]

private theorem nonEmpty?_environmentBag
    (h : (k, name) ∈ environmentKeys (lookup (variableName "TRANSPORT_PROTOCOL"))) :
    nonEmpty? (environmentBag lookup) k = filled? lookup name := by
  rw [nonEmpty?, get?_environmentBag h, filled?]

private theorem protocolVariables_subset (p : Protocol) (protocol : Option String) :
    protocolVariables p ⊆ environmentKeys protocol := by
  cases p <;> simp [protocolVariables, environmentKeys, variableOf]

/-- A setting of a protocol has the text of its variable. -/
private theorem nonEmpty?_of_mem_protocolVariables (h : (k, name) ∈ protocolVariables p) :
    nonEmpty? (environmentBag lookup) k = filled? lookup name :=
  nonEmpty?_environmentBag (protocolVariables_subset p _ h)

/-- What is found in the bag is the text of a variable. -/
theorem get?_environmentBag_eq_some_iff :
    (environmentBag lookup).get? k = some v ↔
      ∃ name text, (k, name) ∈ environmentKeys (lookup (variableName "TRANSPORT_PROTOCOL")) ∧
        lookup (variableName name) = some text ∧ v = Text.trim text := by
  constructor
  · intro hget
    have hk : k ∈ (variableFields lookup).map (·.1) := by
      by_contra hk
      cases (get?_environmentBag_of_not_mem hk).symm.trans hget
    rw [variableFields, List.map_map] at hk
    obtain ⟨⟨k, name⟩, hmem, rfl⟩ := List.mem_map.1 hk
    rw [Function.comp_apply, get?_environmentBag hmem] at hget
    obtain ⟨text, htext, rfl⟩ := Option.map_eq_some_iff.1 hget
    exact ⟨name, text, hmem, htext, rfl⟩
  · rintro ⟨name, text, hmem, htext, rfl⟩
    rw [get?_environmentBag hmem, htext, Option.map_some]

/-- Of the keys of the variables, a protocol leaves those of the other one unread. -/
private theorem filter_environmentKeys (hq : q ≠ p) :
    (environmentKeys (some p.name)).filter (·.1 ∉ recognizedKeys p) = protocolVariables q := by
  revert hq
  cases p <;> cases q <;> decide

private theorem mem_environmentKeys_and_not_mem_iff :
    (k, name) ∈ environmentKeys (some p.name) ∧ k ∉ recognizedKeys p ↔
      ∃ q, q ≠ p ∧ (k, name) ∈ protocolVariables q := by
  constructor
  · rintro ⟨hmem, hk⟩
    obtain ⟨q, hq⟩ : ∃ q, q ≠ p := by
      cases p with
      | smtp => exact ⟨.smtps, by decide⟩
      | smtps => exact ⟨.smtp, by decide⟩
    refine ⟨q, hq, filter_environmentKeys hq ▸ ?_⟩
    exact List.mem_filter.2 ⟨hmem, decide_eq_true hk⟩
  · rintro ⟨q, hq, hmem⟩
    rw [← filter_environmentKeys hq, List.mem_filter] at hmem
    exact ⟨hmem.1, of_decide_eq_true hmem.2⟩

/-! ### The options -/

/-- The properties that are kept are the variables of the other protocol. -/
private theorem get?_unread_eq_some_iff (hp : Selects (environmentBag lookup) p) :
    (if k ∈ recognizedKeys p then none else (environmentBag lookup).get? k) = some v ↔
      ∃ q name text, q ≠ p ∧ (k, name) ∈ protocolVariables q ∧
        lookup (variableName name) = some text ∧ v = Text.trim text := by
  rw [ite_eq_iff, get?_environmentBag_eq_some_iff, environmentKeys_of_selects hp]
  constructor
  · rintro (⟨-, h⟩ | ⟨hk, name, text, hmem, htext, hv⟩)
    · cases h
    · obtain ⟨q, hq, hmem⟩ := mem_environmentKeys_and_not_mem_iff.1 ⟨hmem, hk⟩
      exact ⟨q, name, text, hq, hmem, htext, hv⟩
  · rintro ⟨q, name, text, hq, hmem, htext, hv⟩
    obtain ⟨hmem, hk⟩ := mem_environmentKeys_and_not_mem_iff.2 ⟨q, hq, hmem⟩
    exact .inr ⟨hk, name, text, hmem, htext, hv⟩

/-- The bag of the variables stands for the options that the variables ask for. -/
theorem isReadAs_environmentBag_iff : IsReadAs (environmentBag lookup) o ↔ IsLoaded lookup o := by
  have hhost : nonEmpty? (environmentBag lookup) (hostKey o.protocol) =
      filled? lookup (variableOf o.protocol "HOST") :=
    nonEmpty?_of_mem_protocolVariables (p := o.protocol) (by simp [protocolVariables])
  have hport : nonEmpty? (environmentBag lookup) (portKey o.protocol) =
      filled? lookup (variableOf o.protocol "PORT") :=
    nonEmpty?_of_mem_protocolVariables (p := o.protocol) (by simp [protocolVariables])
  have hauth : nonEmpty? (environmentBag lookup) (authKey o.protocol) =
      filled? lookup (variableOf o.protocol "AUTH") :=
    nonEmpty?_of_mem_protocolVariables (p := o.protocol) (by simp [protocolVariables])
  have hstarttls : starttlsText? (environmentBag lookup) o.protocol =
      starttlsVariable? lookup o.protocol := by
    cases o.protocol with
    | smtp => exact nonEmpty?_of_mem_protocolVariables (p := .smtp) (by simp [protocolVariables])
    | smtps => rfl
  have huser : nonEmpty? (environmentBag lookup) userKey = filled? lookup "USERNAME" :=
    nonEmpty?_environmentBag (by simp [environmentKeys])
  have hpassword : nonEmpty? (environmentBag lookup) passwordKey = filled? lookup "PASSWORD" :=
    nonEmpty?_environmentBag (by simp [environmentKeys])
  have htimeout (hp : Selects (environmentBag lookup) o.protocol) :
      nonEmpty? (environmentBag lookup) (timeoutKey o.protocol) = filled? lookup "TIMEOUT_MS" := by
    rw [nonEmpty?, ← variablesProtocol_of_selects hp, get?_timeoutKey_environmentBag, filled?]
  constructor
  · intro h
    exact {
      protocol := selects_environmentBag_iff.1 h.protocol
      host := hhost ▸ h.host
      auth := hauth ▸ h.auth
      starttls := hstarttls ▸ h.starttls
      user := huser ▸ h.user
      password := hpassword ▸ h.password
      timeout := htimeout h.protocol ▸ h.timeout
      port := hport ▸ h.port
      extra := fun k v => by rw [h.extra, get?_unread_eq_some_iff h.protocol] }
  · intro h
    have hp := selects_environmentBag_iff.2 h.protocol
    exact {
      protocol := hp
      host := hhost ▸ h.host
      auth := hauth ▸ h.auth
      starttls := hstarttls ▸ h.starttls
      user := huser ▸ h.user
      password := hpassword ▸ h.password
      timeout := htimeout hp ▸ h.timeout
      port := hport ▸ h.port
      extra := fun k => Option.ext fun v => by rw [h.extra, get?_unread_eq_some_iff hp] }

theorem ofEnvironment_eq_ok_iff : ofEnvironment lookup = .ok o ↔ IsLoaded lookup o :=
  ofBag_eq_ok_iff.trans isReadAs_environmentBag_iff

/-- No variable is kept as a time-out. -/
theorem IsLoaded.get?_timeoutKey (h : IsLoaded lookup o) (p : Protocol) :
    o.extra.get? (timeoutKey p) = none := by
  have hnone : ∀ q, ∀ field ∈ protocolVariables q, field.1 ≠ timeoutKey p := by
    intro q
    cases p <;> cases q <;> decide
  rw [Option.eq_none_iff_forall_ne_some]
  intro v hv
  obtain ⟨q, name, text, -, hmem, -, -⟩ := (h.extra _ v).1 hv
  exact hnone q _ hmem rfl

/-- Eleven variables and nothing else make the options. If they make any, then each field is what its variable
says, the variables of the other protocol are all that is kept, and the time-out is never among them. -/
theorem ofEnvironment_loads_variables (lookup : String → Option String) :
    (∀ lookup', (∀ name ∈ variableNames, lookup' (variableName name) = lookup (variableName name)) →
        ofEnvironment lookup' = ofEnvironment lookup) ∧
      (∀ o, ofEnvironment lookup = .ok o ↔ IsLoaded lookup o) ∧
      ∀ o p, ofEnvironment lookup = .ok o → o.extra.get? (timeoutKey p) = none := by
  refine ⟨fun lookup' h => ?_, fun o => ofEnvironment_eq_ok_iff, fun o p ho => ?_⟩
  · rw [ofEnvironment, environmentBag_congr h, ofEnvironment]
  · exact (ofEnvironment_eq_ok_iff.1 ho).get?_timeoutKey p

def mixedVariables : String → Option String
  | "POSTLINE_MAIL_TRANSPORT_PROTOCOL" => some " SMTPS "
  | "POSTLINE_MAIL_SMTPS_HOST" => some "mail.example.com "
  | "POSTLINE_MAIL_SMTPS_PORT" => some " "
  | "POSTLINE_MAIL_SMTP_PORT" => some " 2525"
  | "POSTLINE_MAIL_SMTP_STARTTLS" => some " "
  | "POSTLINE_MAIL_TIMEOUT_MS" => some "250"
  | _ => none

def mixedOptions : Options where
  protocol := .smtps
  host := "mail.example.com"
  port := 465
  starttls := false
  auth := false
  user := none
  password := none
  timeout := .ofMillis 250
  extra := .ofPairs [("mail.smtp.port", "2525"), ("mail.smtp.starttls.enable", "")]

/-- Another variable does not come into it. -/
theorem mixedVariables_load :
    ofEnvironment (Function.update mixedVariables "POSTLINE_MAIL_SMTPS_STARTTLS" (some "true")) =
        .ok mixedOptions ∧
      IsLoaded mixedVariables mixedOptions ∧
      mixedOptions.extra.get? "mail.smtps.connectiontimeout" = none := by
  have ho : ofEnvironment mixedVariables = .ok mixedOptions := by decide +kernel
  have ⟨hcongr, hloaded, htimeout⟩ := ofEnvironment_loads_variables mixedVariables
  refine ⟨?_, (hloaded _).1 ho, htimeout _ .smtps ho⟩
  rw [hcongr _ fun name hname => ?_, ho]
  refine Function.update_of_ne ?_ _ _
  revert name
  decide

end Mailroom.Options
