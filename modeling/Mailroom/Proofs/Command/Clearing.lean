import Mailroom.Proofs.Command.Layers
import Mailroom.Proofs.Options.Blank

/-! Settings that are cleared: by an empty property, by a variable of blanks, or by an override without a
value. All of them go back to their defaults, except for the protocol. -/
namespace Mailroom.Command

open Options PropertyBag

variable {sources : Sources} {s : Surroundings} {bag : PropertyBag} {k v : String}

/-- What the overrides say last is what is found. -/
private theorem get?_bag_of_assignsLast (hbag : sources.bag s = .ok bag)
    (h : AssignsLast sources.overrides k v) :
    bag.get? k = some v := by
  have hresolves := resolvesTo_bag sources s
  rw [hbag] at hresolves
  cases hresolves with
  | bag _ _ hlayered => exact hlayered.overridden k v h

private theorem options_of_bag (hbag : sources.bag s = .ok bag) :
    sources.options s = (ofBag bag).mapError .invalidOptions := by
  simp only [Sources.options, hbag]
  rfl

/-- An override without a value clears a setting that is read, if it is not the protocol. -/
theorem options_eq_erase_iff (hbag : sources.bag s = .ok bag) (h : AssignsLast sources.overrides k "")
    (hk : IsOwn bag k) :
    sources.options s = (ofBag (bag.erase k)).mapError .invalidOptions ↔ k ≠ protocolKey := by
  have hinj : ∀ e e' : Error, Failure.invalidOptions e = .invalidOptions e' → e = e' :=
    fun _ _ => Failure.invalidOptions.inj
  rw [options_of_bag hbag, mapError_inj hinj]
  exact ofBag_eq_erase_iff (get?_bag_of_assignsLast hbag h) hk

/-- Whichever way a setting that is read is given nothing, by a property, a variable or an override, the options
or the error are those without it, exactly if it is not the protocol. -/
theorem cleared_iff_ne_protocol (hk : IsOwn bag k) :
    (ofBag (bag.put k "") = ofBag (bag.erase k) ↔ k ≠ protocolKey) ∧
      (∀ lookup name blank, environmentBag lookup = bag →
        (k, name) ∈ environmentKeys (lookup (variableName "TRANSPORT_PROTOCOL")) →
        lookup (variableName name) = some blank → Text.trim blank = "" →
        (ofEnvironment lookup = ofEnvironment (Function.update lookup (variableName name) none) ↔
          k ≠ protocolKey)) ∧
      ∀ (sources : Sources) (s : Surroundings), sources.bag s = .ok bag →
        AssignsLast sources.overrides k "" →
        (sources.options s = (ofBag (bag.erase k)).mapError .invalidOptions ↔ k ≠ protocolKey) := by
  refine ⟨?_, ?_, ?_⟩
  · have hown : IsOwn (bag.put k "") k :=
      (isOwn_congr fun hne => get?_put_of_ne bag hne.symm "").2 hk
    rw [← erase_put bag k "", ofBag_eq_erase_iff (get?_put_self bag k "") hown]
  · rintro lookup name blank rfl hmem hvariable hblank
    exact ofEnvironment_eq_update_iff hvariable hblank hmem hk
  · intro sources s hbag h
    exact options_eq_erase_iff hbag h hk

def portSurroundings : Surroundings where
  lookup name := if name = variableName "SMTP_PORT" then some "2525" else none
  files _ := .error .absent

def clearing : Sources where
  overrides := ["mail.smtp.port=2626", "mail.smtp.port = "]

/-- An override without a value brings the default port back. -/
theorem clearing_gives_defaults :
    clearing.bag portSurroundings = .ok (.ofPairs [("mail.smtp.port", "")]) ∧
      AssignsLast clearing.overrides "mail.smtp.port" "" ∧
      IsOwn (.ofPairs [("mail.smtp.port", "")]) "mail.smtp.port" ∧
      clearing.options portSurroundings = .ok default := by
  have hbag : clearing.bag portSurroundings = .ok (.ofPairs [("mail.smtp.port", "")]) := by
    decide +kernel
  have hassigns : AssignsLast clearing.overrides "mail.smtp.port" "" := by
    refine ⟨["mail.smtp.port=2626"], "mail.smtp.port = ", [], rfl, ?_, by simp⟩
    exact ⟨"mail.smtp.port ", " ", ⟨by decide, by decide⟩, by decide +kernel, by decide +kernel⟩
  have hselects : Selects (.ofPairs [("mail.smtp.port", "")]) .smtp :=
    readProtocol_eq_ok_iff.1 (by decide +kernel)
  have hown : IsOwn (.ofPairs [("mail.smtp.port", "")]) "mail.smtp.port" :=
    isOwn_of_mem hselects (by decide)
  refine ⟨hbag, hassigns, hown, ?_⟩
  rw [((cleared_iff_ne_protocol hown).2.2 _ _ hbag hassigns).2 (by decide)]
  decide +kernel

/-- The protocol cannot be cleared: an empty one is refused, and a missing one is not. -/
theorem empty_protocol_is_not_cleared :
    ¬∀ bag k, IsOwn bag k → ofBag (bag.put k "") = ofBag (bag.erase k) := by
  intro hall
  have hput : ofBag (empty.put protocolKey "") =
      .error (.invalidProperty protocolKey (.unsupportedProtocol "")) := by decide +kernel
  have herase : ofBag (empty.erase protocolKey) = .ok default := by decide +kernel
  have h := hall .empty protocolKey (.inl rfl)
  rw [hput, herase] at h
  cases h

end Mailroom.Command
