import Mailroom.Proofs.Command.Layers
import Mailroom.Proofs.Options.FixedPoint
import Mailroom.Proofs.Options.Variables

/-! How long the command waits when the environment says so. The variable of the time-out names no
protocol: it counts for the protocol that the variables ask for, even if an override selects the other
one. -/
namespace Mailroom.Command

open Options

variable {sources : Sources} {s : Surroundings} {o : Options} {text : String} {n : Nat}

/-- The options are read from the variables, under the overrides. -/
private theorem exists_isLayered_of_options (hfile : sources.file? s = none)
    (h : sources.options s = .ok o) :
    ∃ bag, IsLayered (environmentBag s.lookup) sources.overrides bag ∧ ofBag bag = .ok o := by
  simp only [Sources.options, bind_eq_ok_iff, mapError_eq_ok_iff] at h
  obtain ⟨bag, hbag, ho⟩ := h
  have hresolves := resolvesTo_bag sources s
  rw [hbag] at hresolves
  cases hresolves with
  | bag hbase _ hlayered =>
    cases hbase with
    | file hpath _ => exact absurd (hfile.symm.trans hpath) (by simp)
    | environment _ => exact ⟨bag, hlayered, ho⟩

/-- The time-out is read from its key, -/
theorem timeout_of_get? {bag : PropertyBag} (h : ReadFrom bag o)
    (hget : bag.get? (timeoutKey o.protocol) = some (Text.trim text))
    (hnumeral : Decimal.IsNumeral (Text.trim text).toList n) (hn : n ≤ Decimal.maxWord64) :
    o.timeout = .ofMillis n := by
  obtain ⟨t, ht, htimeout⟩ := h.timeout
  have hnonEmpty : nonEmpty? bag (timeoutKey o.protocol) = some (Text.trim text) := by
    have hne : Text.trim text ≠ "" := fun hempty => hnumeral.ne_nil (congrArg String.toList hempty)
    simp [nonEmpty?, hget, hne]
  have hread : readKey bag (timeoutKey o.protocol) readMillis? = .ok (some (.ofMillis n)) := by
    simp only [readKey, hnonEmpty, readMillis?, hnumeral.readUnsigned?_eq hn, Option.map_some]
  obtain rfl := Except.ok.inj (ht.symm.trans hread)
  exact htimeout

/-- and there is one even if nothing is found there. -/
theorem timeout_of_get?_eq_none {bag : PropertyBag} (h : ReadFrom bag o)
    (hget : bag.get? (timeoutKey o.protocol) = none) : o.timeout = defaultTimeout := by
  obtain ⟨t, ht, htimeout⟩ := h.timeout
  have hread : readKey bag (timeoutKey o.protocol) readMillis? = .ok none := by
    simp [readKey, nonEmpty?, hget]
  obtain rfl := Except.ok.inj (ht.symm.trans hread)
  exact htimeout

/-- Where no file is read and no override gives the time-out, the number in the variable is the time-out
exactly if the variables ask for the protocol that is selected in the end, or by chance. Otherwise nothing
is made of it: the time-out is the default, and the number is kept as a property of the other protocol. -/
theorem timeout_eq_ofMillis_iff (hfile : sources.file? s = none) (ho : sources.options s = .ok o)
    (htext : s.lookup (variableName "TIMEOUT_MS") = some text)
    (hnumeral : Decimal.IsNumeral (Text.trim text).toList n) (hn : n ≤ Decimal.maxWord64)
    (hkept : ∀ t ∈ sources.overrides, ∀ v, ¬Assigns t (timeoutKey o.protocol) v) :
    (o.timeout = .ofMillis n ↔ o.protocol = variablesProtocol s.lookup ∨ n = 60000) ∧
      (o.protocol ≠ variablesProtocol s.lookup → o.timeout = defaultTimeout ∧
        ((∀ t ∈ sources.overrides, ∀ v, ¬Assigns t (timeoutKey (variablesProtocol s.lookup)) v) →
          o.extra.get? (timeoutKey (variablesProtocol s.lookup)) = some (Text.trim text))) := by
  obtain ⟨bag, hlayered, hbag⟩ := exists_isLayered_of_options hfile ho
  have hread := readFrom_of_ofBag hbag
  have hvariable : (environmentBag s.lookup).get? (timeoutKey (variablesProtocol s.lookup)) =
      some (Text.trim text) := by
    rw [get?_timeoutKey_environmentBag, htext]
    rfl
  have hget := hlayered.kept _ hkept
  by_cases hp : o.protocol = variablesProtocol s.lookup
  · rw [hp, hvariable, ← hp] at hget
    exact ⟨iff_of_true (timeout_of_get? hread hget hnumeral hn) (.inl hp), absurd hp⟩
  · rw [get?_timeoutKey_environmentBag_of_ne hp] at hget
    have hdefault := timeout_of_get?_eq_none hread hget
    refine ⟨?_, fun _ => ⟨hdefault, fun hother => ?_⟩⟩
    · simp [hdefault, hp, defaultTimeout, Duration.ofSeconds, Duration.ofMillis]
      omega
    · have hidle : timeoutKey (variablesProtocol s.lookup) ∉ recognizedKeys o.protocol := by
        revert hp
        cases o.protocol <;> cases variablesProtocol s.lookup <;> decide
      rw [hread.extra, PropertyBag.get?_foldl_erase, if_neg hidle, hlayered.kept _ hother, hvariable]

def hastySurroundings (protocol : Option String) : Surroundings where
  lookup name :=
    if name = variableName "TIMEOUT_MS" then some "5"
    else if name = variableName "TRANSPORT_PROTOCOL" then protocol
    else none
  files _ := .error .absent

def tunnelled : Sources where
  overrides := ["mail.transport.protocol=smtps"]

def tunnelledOptions (timeout : Duration) (extra : PropertyBag) : Options where
  protocol := .smtps
  host := "localhost"
  port := 465
  starttls := false
  auth := false
  user := none
  password := none
  timeout := timeout
  extra := extra

private theorem tunnelled_keeps (p : Protocol) :
    ∀ t ∈ tunnelled.overrides, ∀ v, ¬Assigns t (timeoutKey p) v := by
  intro t ht v hv
  obtain rfl : t = "mail.transport.protocol=smtps" := by simpa [tunnelled] using ht
  have hprotocol : Assigns "mail.transport.protocol=smtps" protocolKey "smtps" :=
    ⟨"mail.transport.protocol", "smtps", ⟨by decide, by decide⟩, by decide +kernel, by decide +kernel⟩
  have hne : timeoutKey p ≠ protocolKey := by cases p <;> decide
  exact hne (hv.unique hprotocol).1

private theorem isNumeral_five : Decimal.IsNumeral (Text.trim "5").toList 5 :=
  ⟨['5'], .inl (by decide +kernel), by decide, by simp, by decide⟩

/-- Variables that ask for the protocol that is selected set the time-out, -/
theorem tunnelled_waits_as_asked :
    tunnelled.options (hastySurroundings (some "smtps")) = .ok (tunnelledOptions (.ofMillis 5) .empty) ∧
      ((tunnelledOptions (.ofMillis 5) .empty).timeout = .ofMillis 5 ↔
        Protocol.smtps = variablesProtocol (hastySurroundings (some "smtps")).lookup ∨ 5 = 60000) := by
  have ho : tunnelled.options (hastySurroundings (some "smtps")) =
      .ok (tunnelledOptions (.ofMillis 5) .empty) := by decide +kernel
  exact ⟨ho, (timeout_eq_ofMillis_iff (by decide +kernel) ho (by decide) isNumeral_five (by decide)
    (tunnelled_keeps _)).1⟩

/-- and variables that ask for none do not, though the options are fine and no override is about time. -/
theorem tunnelled_waits_too_long :
    ¬∀ (sources : Sources) (s : Surroundings) (o : Options) (text : String) (n : Nat),
      sources.file? s = none → sources.options s = .ok o →
      s.lookup (variableName "TIMEOUT_MS") = some text → Decimal.IsNumeral (Text.trim text).toList n →
      n ≤ Decimal.maxWord64 →
      (∀ t ∈ sources.overrides, ∀ v, ¬Assigns t (timeoutKey o.protocol) v) → o.timeout = .ofMillis n := by
  intro hall
  have ho : tunnelled.options (hastySurroundings none) =
      .ok (tunnelledOptions defaultTimeout (.ofPairs [("mail.smtp.connectiontimeout", "5")])) := by
    decide +kernel
  exact absurd (hall tunnelled _ _ _ 5 (by decide +kernel) ho (by decide) isNumeral_five (by decide)
    (tunnelled_keeps _)) (by decide)

end Mailroom.Command
