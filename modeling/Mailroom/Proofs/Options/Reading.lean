import Mailroom.Proofs.Options.Values
import Mailroom.Proofs.Outcome
import Mailroom.Proofs.Properties.Lookup

/-! The options that a bag stands for, and what keeps a bag from standing for any: the reader gives just the
ones, and is refused just for the other. -/
namespace Mailroom.Options

open PropertyBag

/-- The bag asks for the protocol, by its name or by naming none at all. -/
def Selects (bag : PropertyBag) (p : Protocol) : Prop :=
  match bag.get? protocolKey with
  | none => p = .smtp
  | some text => p.IsNamed text

/-! ### Options that a bag stands for -/

def Gives {α : Type} (text? : Option String) (Means : String → α → Prop) (default value : α) : Prop :=
  match text? with
  | none => value = default
  | some text => Means text value

def starttlsText? (bag : PropertyBag) : Protocol → Option String
  | .smtp => nonEmpty? bag starttlsKey
  | .smtps => none

/-- The bag stands for the options: each of their fields is what its property says, or the default if that is
missing or empty, and all other properties are kept. -/
structure IsReadAs (bag : PropertyBag) (o : Options) : Prop where
  protocol : Selects bag o.protocol
  host : o.host = (nonEmpty? bag (hostKey o.protocol)).getD defaultHost
  auth : Gives (nonEmpty? bag (authKey o.protocol)) IsTruth false o.auth
  starttls : Gives (starttlsText? bag o.protocol) IsTruth false o.starttls
  user : o.user = nonEmpty? bag userKey
  password : o.password = nonEmpty? bag passwordKey
  timeout : Gives (nonEmpty? bag (timeoutKey o.protocol)) IsMillis defaultTimeout o.timeout
  port : Gives (nonEmpty? bag (portKey o.protocol)) IsPort o.security.defaultPort o.port
  extra : ∀ k, o.extra.get? k = if k ∈ recognizedKeys o.protocol then none else bag.get? k

/-! ### Bags that stand for none -/

structure Check where
  key : String
  Accepts : String → Prop

def checks : Protocol → List Check
  | .smtp =>
    [ ⟨authKey .smtp, fun text => ∃ b, IsTruth text b⟩,
      ⟨starttlsKey, fun text => ∃ b, IsTruth text b⟩,
      ⟨timeoutKey .smtp, fun text => ∃ t, IsMillis text t⟩,
      ⟨portKey .smtp, fun text => ∃ port, IsPort text port⟩ ]
  | .smtps =>
    [ ⟨authKey .smtps, fun text => ∃ b, IsTruth text b⟩,
      ⟨timeoutKey .smtps, fun text => ∃ t, IsMillis text t⟩,
      ⟨portKey .smtps, fun text => ∃ port, IsPort text port⟩ ]

def Check.FailsOn (c : Check) (bag : PropertyBag) (text : String) : Prop :=
  bag.get? c.key = some text ∧ text ≠ "" ∧ ¬c.Accepts text

def Check.Fails (c : Check) (bag : PropertyBag) : Prop := ∃ text, c.FailsOn bag text

/-- The error is for the first of the settings whose text cannot be read. -/
def IsFirstFault (bag : PropertyBag) (cs : List Check) (e : Error) : Prop :=
  ∃ before c after text, cs = before ++ c :: after ∧ (∀ d ∈ before, ¬d.Fails bag) ∧
    c.FailsOn bag text ∧ e = .invalidProperty c.key (.unreadable text)

/-- Why a bag stands for no options. The protocol comes before the settings. -/
inductive IsRefusedFor (bag : PropertyBag) : Error → Prop
  | protocol {text : String} (hget : bag.get? protocolKey = some text)
      (hnone : ∀ p : Protocol, ¬p.IsNamed text) :
      IsRefusedFor bag (.invalidProperty protocolKey (.unsupportedProtocol (Text.keyword text)))
  | setting {p : Protocol} {e : Error} (hp : Selects bag p) (h : IsFirstFault bag (checks p) e) :
      IsRefusedFor bag e

variable {bag : PropertyBag} {o : Options} {e : Error} {p q : Protocol} {k text : String} {α : Type}

/-! ### The protocol -/

theorem Selects.unique (hp : Selects bag p) (hq : Selects bag q) : p = q := by
  unfold Selects at hp hq
  cases hget : bag.get? protocolKey with
  | none =>
    simp only [hget] at hp hq
    exact hp.trans hq.symm
  | some text =>
    simp only [hget] at hp hq
    exact hp.unique hq

theorem selects_congr {bag' : PropertyBag} (h : bag'.get? protocolKey = bag.get? protocolKey) :
    Selects bag' p ↔ Selects bag p := by
  simp only [Selects, h]

theorem readProtocol_eq_ok_iff : readProtocol bag = .ok p ↔ Selects bag p := by
  unfold readProtocol Selects
  cases bag.get? protocolKey with
  | none => simp [eq_comm]
  | some text => exact Protocol.parse_eq_ok_iff

theorem readProtocol_eq_error_iff :
    readProtocol bag = .error e ↔
      ∃ text, bag.get? protocolKey = some text ∧ (∀ p : Protocol, ¬p.IsNamed text) ∧
        e = .invalidProperty protocolKey (.unsupportedProtocol (Text.keyword text)) := by
  unfold readProtocol
  cases bag.get? protocolKey with
  | none => simp
  | some text => simp [Protocol.parse_eq_error_iff]

/-! ### Single settings -/

theorem nonEmpty?_eq_some_iff : nonEmpty? bag k = some text ↔ bag.get? k = some text ∧ text ≠ "" := by
  simp [nonEmpty?, Option.filter_eq_some_iff]

section
variable {read? : String → Option α} {Means : String → α → Prop}
  (hread : ∀ {text : String} {a : α}, read? text = some a ↔ Means text a)
include hread

/-- A setting is read as what it gives. -/
theorem exists_readKey_eq_ok_iff {default value : α} :
    (∃ x, readKey bag k read? = .ok x ∧ x.getD default = value) ↔
      Gives (nonEmpty? bag k) Means default value := by
  unfold readKey Gives
  cases nonEmpty? bag k with
  | none => simp [eq_comm]
  | some text =>
    simp only [← hread]
    cases read? text with
    | none => simp
    | some a => simp

theorem readKey_eq_error_iff :
    readKey bag k read? = .error e ↔
      ∃ text, Check.FailsOn ⟨k, fun text => ∃ a, Means text a⟩ bag text ∧
        e = .invalidProperty k (.unreadable text) := by
  have hgiven (text : String) : Check.FailsOn ⟨k, fun text => ∃ a, Means text a⟩ bag text ↔
      nonEmpty? bag k = some text ∧ read? text = none := by
    simp only [Check.FailsOn, nonEmpty?_eq_some_iff, and_assoc, ← hread, Option.eq_none_iff_forall_ne_some,
      not_exists, ne_eq]
  simp only [hgiven, readKey]
  cases nonEmpty? bag k with
  | none => simp
  | some text =>
    cases hr : read? text with
    | none => simp [hr, eq_comm]
    | some a => simp [hr]

end

/-! ### Settings in turn -/

private theorem not_isFirstFault_nil : ¬IsFirstFault bag [] e := by
  rintro ⟨before, c, after, text, h, -⟩
  simp at h

/-- A setting is at fault before those after it. -/
private theorem isFirstFault_cons {c : Check} {cs : List Check} :
    IsFirstFault bag (c :: cs) e ↔
      (∃ text, c.FailsOn bag text ∧ e = .invalidProperty c.key (.unreadable text)) ∨
        ¬c.Fails bag ∧ IsFirstFault bag cs e := by
  constructor
  · rintro ⟨before, d, after, text, hcs, hbefore, hfails⟩
    cases before with
    | nil =>
      obtain ⟨rfl, rfl⟩ := List.cons.inj hcs
      exact .inl ⟨text, hfails⟩
    | cons b before =>
      obtain ⟨rfl, rfl⟩ := List.cons.inj hcs
      obtain ⟨hc, hbefore⟩ := List.forall_mem_cons.1 hbefore
      exact .inr ⟨hc, before, d, after, text, rfl, hbefore, hfails⟩
  · rintro (⟨text, hfails⟩ | ⟨hc, before, d, after, text, rfl, hbefore, hfails⟩)
    · exact ⟨[], c, cs, text, rfl, by simp, hfails⟩
    · exact ⟨c :: before, d, after, text, rfl, List.forall_mem_cons.2 ⟨hc, hbefore⟩, hfails⟩

private theorem exists_isFirstFault_iff {cs : List Check} :
    (∃ e, IsFirstFault bag cs e) ↔ ∃ c ∈ cs, c.Fails bag := by
  induction cs with
  | nil => simp [not_isFirstFault_nil]
  | cons c cs ih =>
    simp only [isFirstFault_cons, exists_or, exists_and_left, ih, List.exists_mem_cons_iff]
    by_cases hc : c.Fails bag
    · obtain ⟨text, htext⟩ := hc
      exact iff_of_true (.inl ⟨_, text, htext, rfl⟩) (.inl ⟨text, htext⟩)
    · simp only [hc, not_false_eq_true, true_and, false_or]
      refine or_iff_right ?_
      rintro ⟨_, text, htext, -⟩
      exact hc ⟨text, htext⟩

theorem exists_isRefusedFor_iff :
    (∃ e, IsRefusedFor bag e) ↔
      (∀ p, ¬Selects bag p) ∨ ∃ p, Selects bag p ∧ ∃ c ∈ checks p, c.Fails bag := by
  constructor
  · rintro ⟨e, h⟩
    cases h with
    | protocol hget hnone =>
      refine .inl fun p hp => hnone p ?_
      simpa only [Selects, hget] using hp
    | setting hp h => exact .inr ⟨_, hp, exists_isFirstFault_iff.1 ⟨e, h⟩⟩
  · rintro (hnone | ⟨p, hp, hc⟩)
    · cases hget : bag.get? protocolKey with
      | none => exact absurd (by simp only [Selects, hget]) (hnone .smtp)
      | some text =>
        refine ⟨_, .protocol hget fun p hp => hnone p ?_⟩
        simpa only [Selects, hget] using hp
    · obtain ⟨e, h⟩ := exists_isFirstFault_iff.2 hc
      exact ⟨e, .setting hp h⟩

section
variable {β : Type} {read? : String → Option α} {Means : String → α → Prop}
  (hread : ∀ {text : String} {a : α}, read? text = some a ↔ Means text a)
include hread

private theorem exists_readKey_eq_ok_iff_not_fails :
    (∃ x, readKey bag k read? = .ok x) ↔ ¬Check.Fails ⟨k, fun text => ∃ a, Means text a⟩ bag := by
  cases hr : readKey bag k read? with
  | ok x =>
    refine iff_of_true ⟨x, rfl⟩ ?_
    rintro ⟨text, htext⟩
    cases hr.symm.trans ((readKey_eq_error_iff hread).2 ⟨text, htext, rfl⟩)
  | error e =>
    obtain ⟨text, htext, -⟩ := (readKey_eq_error_iff hread).1 hr
    refine iff_of_false ?_ fun h => h ⟨text, htext⟩
    rintro ⟨x, hx⟩
    cases hx

/-- A setting that is read before the others comes before them as a fault. -/
private theorem readKey_bind_eq_error_iff {f : Option α → Except Error β} {cs : List Check}
    (hf : ∀ x, f x = .error e ↔ IsFirstFault bag cs e) :
    (readKey bag k read? >>= f) = .error e ↔
      IsFirstFault bag (⟨k, fun text => ∃ a, Means text a⟩ :: cs) e := by
  rw [bind_eq_error_iff, isFirstFault_cons, readKey_eq_error_iff hread,
    ← exists_readKey_eq_ok_iff_not_fails hread]
  simp only [hf, exists_and_right]

end

/-! ### The reader -/

def readStarttls (bag : PropertyBag) : Protocol → Except Error (Option Bool)
  | .smtp => readKey bag starttlsKey readBool?
  | .smtps => .ok none

theorem ofBag_eq (bag : PropertyBag) :
    ofBag bag = do
      let p ← readProtocol bag
      let auth ← readKey bag (authKey p) readBool?
      let starttls ← readStarttls bag p
      let timeout ← readKey bag (timeoutKey p) readMillis?
      let port ← readKey bag (portKey p) readPort?
      return {
        protocol := p
        host := (nonEmpty? bag (hostKey p)).getD defaultHost
        port := port.getD (securityOf p (starttls.getD false)).defaultPort
        starttls := starttls.getD false
        auth := auth.getD false
        user := nonEmpty? bag userKey
        password := nonEmpty? bag passwordKey
        timeout := timeout.getD defaultTimeout
        extra := (recognizedKeys p).foldl erase bag } := by
  unfold ofBag
  congr 1
  funext p
  cases p <;> rfl

private theorem exists_readStarttls_eq_ok_iff {default value : Bool} :
    (∃ x, readStarttls bag p = .ok x ∧ x.getD default = value) ↔
      Gives (starttlsText? bag p) IsTruth default value := by
  cases p with
  | smtp => exact exists_readKey_eq_ok_iff readBool?_eq_some_iff
  | smtps => simp [readStarttls, starttlsText?, Gives, eq_comm]

/-- The reader gives the options that the bag stands for, and no others. -/
theorem ofBag_eq_ok_iff : ofBag bag = .ok o ↔ IsReadAs bag o := by
  simp only [ofBag_eq, bind_eq_ok_iff, pure_eq_ok_iff, readProtocol_eq_ok_iff]
  constructor
  · rintro ⟨p, hp, auth, hauth, starttls, hstarttls, timeout, htimeout, port, hport, rfl⟩
    exact {
      protocol := hp
      host := rfl
      auth := (exists_readKey_eq_ok_iff readBool?_eq_some_iff).1 ⟨auth, hauth, rfl⟩
      starttls := exists_readStarttls_eq_ok_iff.1 ⟨starttls, hstarttls, rfl⟩
      user := rfl
      password := rfl
      timeout := (exists_readKey_eq_ok_iff readMillis?_eq_some_iff).1 ⟨timeout, htimeout, rfl⟩
      port := (exists_readKey_eq_ok_iff readPort?_eq_some_iff).1 ⟨port, hport, rfl⟩
      extra := get?_foldl_erase bag _ }
  · intro h
    obtain ⟨auth, hauth, hauth'⟩ := (exists_readKey_eq_ok_iff readBool?_eq_some_iff).2 h.auth
    obtain ⟨starttls, hstarttls, hstarttls'⟩ := exists_readStarttls_eq_ok_iff.2 h.starttls
    obtain ⟨timeout, htimeout, htimeout'⟩ := (exists_readKey_eq_ok_iff readMillis?_eq_some_iff).2 h.timeout
    obtain ⟨port, hport, hport'⟩ := (exists_readKey_eq_ok_iff readPort?_eq_some_iff).2 h.port
    have hextra : (recognizedKeys o.protocol).foldl erase bag = o.extra := by
      apply ext_get?
      intro k
      rw [get?_foldl_erase, h.extra]
    refine ⟨o.protocol, h.protocol, auth, hauth, starttls, hstarttls, timeout, htimeout, port, hport, ?_⟩
    rw [hauth', hstarttls', htimeout', hextra, ← h.host, ← h.user, ← h.password]
    exact congrArg (fun port => { o with port }) hport'

/-- Whatever is made of the settings, the first one at fault is reported. -/
theorem settings_eq_error_iff
    (f : Option Bool → Option Bool → Option Duration → Option UInt16 → Options) :
    (do
      let auth ← readKey bag (authKey p) readBool?
      let starttls ← readStarttls bag p
      let timeout ← readKey bag (timeoutKey p) readMillis?
      let port ← readKey bag (portKey p) readPort?
      return f auth starttls timeout port) = .error e ↔ IsFirstFault bag (checks p) e := by
  have hdone (auth starttls timeout port) :
      (pure (f auth starttls timeout port) : Except Error Options) = .error e ↔ IsFirstFault bag [] e :=
    iff_of_false (by simp [pure, Except.pure]) not_isFirstFault_nil
  cases p with
  | smtp =>
    apply readKey_bind_eq_error_iff readBool?_eq_some_iff
    intro auth
    apply readKey_bind_eq_error_iff readBool?_eq_some_iff
    intro starttls
    apply readKey_bind_eq_error_iff readMillis?_eq_some_iff
    intro timeout
    apply readKey_bind_eq_error_iff readPort?_eq_some_iff
    intro port
    exact hdone auth starttls timeout port
  | smtps =>
    apply readKey_bind_eq_error_iff readBool?_eq_some_iff
    intro auth
    apply readKey_bind_eq_error_iff readMillis?_eq_some_iff
    intro timeout
    apply readKey_bind_eq_error_iff readPort?_eq_some_iff
    intro port
    exact hdone auth none timeout port

/-- The reader is refused for what keeps the bag from standing for options, and for nothing else. -/
theorem ofBag_eq_error_iff : ofBag bag = .error e ↔ IsRefusedFor bag e := by
  simp only [ofBag_eq, bind_eq_error_iff (x := readProtocol bag), readProtocol_eq_error_iff,
    readProtocol_eq_ok_iff, settings_eq_error_iff]
  constructor
  · rintro (⟨text, hget, hnone, rfl⟩ | ⟨p, hp, h⟩)
    · exact .protocol hget hnone
    · exact .setting hp h
  · intro h
    cases h with
    | protocol hget hnone => exact .inl ⟨_, hget, hnone, rfl⟩
    | setting hp h => exact .inr ⟨_, hp, h⟩

end Mailroom.Options
