import Mailroom.Options.Environment
import Mailroom.Proofs.Properties.Lookup

/-! What the variables of the environment come to as properties. -/
namespace Mailroom.Options

open PropertyBag

/-- The protocol that the variables ask for, or the plain one if they ask for none that is known. -/
def variablesProtocol (lookup : String → Option String) : Protocol :=
  match (lookup (variableName "TRANSPORT_PROTOCOL")).map Protocol.parse with
  | some (.ok p) => p
  | _ => .smtp

def steadyKeys : List String :=
  [protocolKey, userKey, passwordKey, hostKey .smtp, portKey .smtp, authKey .smtp, starttlsKey,
    hostKey .smtps, portKey .smtps, authKey .smtps]

private theorem timeoutKey_not_mem_steadyKeys (p : Protocol) : timeoutKey p ∉ steadyKeys := by
  cases p <;> decide

private theorem timeoutKey_inj {p q : Protocol} : timeoutKey p = timeoutKey q ↔ p = q := by
  cases p <;> cases q <;> decide

variable (lookup : String → Option String)

theorem environmentTimeoutKey_eq :
    environmentTimeoutKey (lookup (variableName "TRANSPORT_PROTOCOL")) =
      timeoutKey (variablesProtocol lookup) := by
  unfold environmentTimeoutKey variablesProtocol
  cases (lookup (variableName "TRANSPORT_PROTOCOL")).map Protocol.parse with
  | none => rfl
  | some parsed => cases parsed <;> rfl

def variableFields : List (String × Option String) :=
  (environmentKeys (lookup (variableName "TRANSPORT_PROTOCOL"))).map fun (key, name) =>
    (key, lookup (variableName name))

theorem environmentBag_eq : environmentBag lookup = .ofPairs (presentPairs (variableFields lookup)) := by
  rw [environmentBag, presentPairs, variableFields, List.filterMap_map]
  rfl

private theorem keys_variableFields :
    (variableFields lookup).map (·.1) = steadyKeys ++ [timeoutKey (variablesProtocol lookup)] := by
  rw [← environmentTimeoutKey_eq]
  rfl

private theorem isProper_of_mem_variableFields :
    ∀ field ∈ variableFields lookup, Text.IsProper field.1 := by
  have hall : ∀ k ∈ (variableFields lookup).map (·.1), Text.IsProper k := by
    rw [keys_variableFields]
    cases variablesProtocol lookup with
    | smtp => decide
    | smtps => decide
  exact fun field hfield => hall _ (List.mem_map_of_mem hfield)

theorem nodup_variableFields : ((variableFields lookup).map (·.1)).Nodup := by
  rw [keys_variableFields]
  cases variablesProtocol lookup with
  | smtp => decide
  | smtps => decide

variable {lookup}

/-- A variable is found under its key, without the blanks around its value. -/
theorem get?_environmentBag {key name : String}
    (h : (key, name) ∈ environmentKeys (lookup (variableName "TRANSPORT_PROTOCOL"))) :
    (environmentBag lookup).get? key = (lookup (variableName name)).map Text.trim := by
  have hfield : (key, lookup (variableName name)) ∈ variableFields lookup :=
    List.mem_map_of_mem (f := fun (key, name) => (key, lookup (variableName name))) h
  rw [environmentBag_eq, ofPairs, get?_foldl_presentPairs .empty (isProper_of_mem_variableFields lookup)
    (nodup_variableFields lookup) hfield, get?_empty, Option.or_none]

/-- Nothing is found under a key that no variable sets. -/
theorem get?_environmentBag_of_not_mem {key : String} (h : key ∉ (variableFields lookup).map (·.1)) :
    (environmentBag lookup).get? key = none := by
  have hsub := (keys_presentPairs_sublist (variableFields lookup)).subset
  rw [environmentBag_eq, ofPairs, get?_foldl_of_not_mem, get?_empty]
  · intro pair hpair
    obtain ⟨field, hfield, hkey⟩ := List.mem_map.1 (hsub (List.mem_map_of_mem hpair))
    exact hkey ▸ isProper_of_mem_variableFields lookup field hfield
  · exact fun hkey => h (hsub hkey)

/-- The variable of the time-out counts for the protocol that the variables ask for, -/
theorem get?_timeoutKey_environmentBag :
    (environmentBag lookup).get? (timeoutKey (variablesProtocol lookup)) =
      (lookup (variableName "TIMEOUT_MS")).map Text.trim := by
  apply get?_environmentBag
  rw [← environmentTimeoutKey_eq]
  simp [environmentKeys]

/-- and for no other. -/
theorem get?_timeoutKey_environmentBag_of_ne {p : Protocol} (h : p ≠ variablesProtocol lookup) :
    (environmentBag lookup).get? (timeoutKey p) = none := by
  apply get?_environmentBag_of_not_mem
  rw [keys_variableFields]
  intro hmem
  rcases List.mem_append.1 hmem with hmem | hmem
  · exact timeoutKey_not_mem_steadyKeys p hmem
  · exact h (timeoutKey_inj.1 (List.mem_singleton.1 hmem))

end Mailroom.Options
