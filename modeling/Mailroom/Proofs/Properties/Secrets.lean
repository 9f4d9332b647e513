import Mailroom.Proofs.Properties.Lookup
import Mailroom.Proofs.Text.Cutting
import Mailroom.Properties.Json

/-! What is shown of a bag whose secrets are covered. -/
namespace Mailroom

/-- Nobody can tell the values apart, on one line or over several. -/
def Text.Shown.Alike (v v' : Text.Shown) : Prop :=
  v'.line = v.line ∧ v'.block = v.block

theorem Text.Shown.Alike.of_eq {v v' : Text.Shown} (h : v' = v) : v.Alike v' :=
  ⟨congrArg line h, congrArg block h⟩

namespace PropertyBag

variable {bag bag' : PropertyBag} {k key value value' : String}

def NamesSecret (key : String) : Prop :=
  "password".toList <:+ key.toList ∨ "secret".toList <:+ key.toList

/-- The bags differ at most in values that are secrets. -/
structure SameButSecrets (bag bag' : PropertyBag) : Prop where
  isSome_eq : ∀ k, (bag'.get? k).isSome = (bag.get? k).isSome
  get?_eq : ∀ k, ¬NamesSecret k → bag'.get? k = bag.get? k

theorem isSecret_iff : isSecret k = true ↔ NamesSecret k := by
  simp [isSecret, NamesSecret, Text.isSome_dropSuffix?]

/-! ### Covering -/

def coveredValue (key value : String) : String :=
  if isSecret key then "***" else value

def covered (bag : PropertyBag) : PropertyBag where
  entries := bag.entries.map fun (key, value) => (key, coveredValue key value)
  inOrder := by
    rw [Entries.InOrder, List.pairwise_map]
    exact bag.inOrder

theorem get?_covered (bag : PropertyBag) (k : String) :
    bag.covered.get? k = (bag.get? k).map (coveredValue k) :=
  Entries.get?_map coveredValue k bag.entries

/-- Only the covered bag is shown. -/
theorem shown_eq_of_covered (bag : PropertyBag) :
    bag.shown = .table (bag.covered.entries.map fun (key, value) => (key, .string value)) := by
  rw [shown, covered, List.map_map]
  rfl

/-- Covering leaves of a bag its keys and what is no secret, and nothing else. -/
theorem covered_eq_iff : bag'.covered = bag.covered ↔ bag.SameButSecrets bag' := by
  constructor
  · intro h
    have hget (k : String) : (bag'.get? k).map (coveredValue k) = (bag.get? k).map (coveredValue k) := by
      rw [← get?_covered, ← get?_covered, h]
    refine ⟨fun k => ?_, fun k hk => ?_⟩
    · simpa using congrArg Option.isSome (hget k)
    · have hid : coveredValue k = id := by
        funext value
        simp [coveredValue, isSecret_iff, hk]
      simpa [hid] using hget k
  · intro h
    apply ext_get?
    intro k
    rw [get?_covered, get?_covered]
    by_cases hk : NamesSecret k
    · have hconst (x : Option String) : x.map (coveredValue k) = if x.isSome then some "***" else none := by
        cases x with
        | none => rfl
        | some value => simp [coveredValue, isSecret_iff, hk]
      rw [hconst, hconst, h.isSome_eq]
    · rw [h.get?_eq k hk]

/-- Bags that differ at most in secrets are shown as one. -/
theorem SameButSecrets.shown_eq (h : bag.SameButSecrets bag') : bag'.shown = bag.shown := by
  rw [shown_eq_of_covered, shown_eq_of_covered, covered_eq_iff.2 h]

/-! ### Setting properties -/

/-- A property is given the same value twice, or is a secret. -/
def AgreesButSecret (s s' : String × String) : Prop :=
  s'.1 = s.1 ∧ (s'.2 = s.2 ∨ NamesSecret (Text.trim s.1))

theorem SameButSecrets.put (h : bag.SameButSecrets bag') (hvalue : value' = value ∨ NamesSecret key) :
    (bag.put key value).SameButSecrets (bag'.put key value') := by
  refine ⟨fun k => ?_, fun k hk => ?_⟩
  · by_cases hkey : k = key
    · simp [hkey]
    · simpa [get?_put_of_ne, hkey] using h.isSome_eq k
  · by_cases hkey : k = key
    · subst hkey
      simpa using hvalue.resolve_right hk
    · simpa [get?_put_of_ne, hkey] using h.get?_eq k hk

theorem SameButSecrets.setIfNamed (h : bag.SameButSecrets bag')
    (hvalue : value' = value ∨ NamesSecret (Text.trim key)) :
    (bag.setIfNamed key value).SameButSecrets (bag'.setIfNamed key value') := by
  by_cases hempty : Text.trim key = ""
  · simpa [PropertyBag.setIfNamed, set, hempty] using h
  · simpa [PropertyBag.setIfNamed, set, hempty] using h.put (hvalue.imp_left (congrArg Text.trim))

/-- Bags that are filled alike but for secrets differ at most in secrets. -/
theorem SameButSecrets.foldl {settings settings' : List (String × String)}
    (hsettings : List.Forall₂ AgreesButSecret settings settings') (h : bag.SameButSecrets bag') :
    (settings.foldl (fun bag (key, value) => bag.setIfNamed key value) bag).SameButSecrets
      (settings'.foldl (fun bag (key, value) => bag.setIfNamed key value) bag') := by
  induction hsettings generalizing bag bag' with
  | nil => exact h
  | @cons s s' _ _ hs _ ih =>
    obtain ⟨key, value⟩ := s
    obtain ⟨key', value'⟩ := s'
    obtain ⟨rfl, hvalue⟩ : key' = key ∧ (value' = value ∨ NamesSecret (Text.trim key)) := hs
    simp only [List.foldl_cons]
    exact ih (h.setIfNamed hvalue)

end PropertyBag

end Mailroom
