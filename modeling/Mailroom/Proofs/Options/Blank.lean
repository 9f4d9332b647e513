import Mathlib.Logic.Function.Basic
import Mailroom.Proofs.Options.OwnKeys
import Mailroom.Proofs.Options.Variables

/-! Properties that are set to nothing, and variables that are set to blanks: for all settings but the
protocol this is the same as not setting them. -/
namespace Mailroom.Options

open PropertyBag

variable {bag : PropertyBag} {p : Protocol} {k key name blank : String} {lookup : String → Option String}

/-! ### Properties -/

private theorem nonEmpty?_eq_none_of_empty (h : bag.get? k = some "") : nonEmpty? bag k = none := by
  simp [nonEmpty?, h, Option.filter]

/-- The empty text names no protocol. -/
theorem ofBag_of_empty_protocol (h : bag.get? protocolKey = some "") :
    ofBag bag = .error (.invalidProperty protocolKey (.unsupportedProtocol "")) := by
  have hkeyword : Text.keyword "" = "" := by decide
  have hnone : ∀ p : Protocol, ¬p.IsNamed "" := by
    intro p
    cases p <;> decide
  have hrefused := IsRefusedFor.protocol h hnone
  rw [hkeyword] at hrefused
  exact ofBag_eq_error_iff.2 hrefused

/-- A bag without a protocol is not refused for its protocol. -/
private theorem ofBag_ne_of_no_protocol (h : bag.get? protocolKey = none) (key word : String) :
    ofBag bag ≠ .error (.invalidProperty key (.unsupportedProtocol word)) := by
  intro herror
  generalize he : Error.invalidProperty key (.unsupportedProtocol word) = e at herror
  cases ofBag_eq_error_iff.1 herror with
  | protocol hget _ => cases h.symm.trans hget
  | setting _ hfault =>
    obtain ⟨before, c, after, text, -, -, -, rfl⟩ := hfault
    simp at he

private theorem agree_erase_of_empty (h : bag.get? k = some "") (hne : k ≠ protocolKey) :
    Agree bag (bag.erase k) := by
  refine ⟨get?_erase_of_ne bag hne.symm, fun p _ l _ _ => ?_⟩
  by_cases hl : l = k
  · subst hl
    rw [nonEmpty?_eq_none_of_empty h, nonEmpty?, get?_erase_self]
    rfl
  · rw [nonEmpty?, get?_erase_of_ne bag hl, nonEmpty?]

/-- Where an own key is empty, it could as well be missing, but the key of the protocol could not. -/
theorem ofBag_eq_erase_iff (h : bag.get? k = some "") (hk : IsOwn bag k) :
    ofBag bag = ofBag (bag.erase k) ↔ k ≠ protocolKey := by
  constructor
  · rintro heq rfl
    exact ofBag_ne_of_no_protocol (get?_erase_self bag protocolKey) _ _
      (heq.symm.trans (ofBag_of_empty_protocol h))
  · intro hne
    obtain ⟨p, hp, hmem⟩ := hk.resolve_left hne
    refine ((agree_erase_of_empty h hne).ofBag_eq fun q hq l hl => ?_).symm
    obtain rfl := hp.unique hq
    have hl : l ≠ k := by
      rintro rfl
      exact hl hmem
    exact get?_erase_of_ne bag hl

theorem isOwn_congr {bag' : PropertyBag} (h : k ≠ protocolKey → bag'.get? protocolKey = bag.get? protocolKey) :
    IsOwn bag' k ↔ IsOwn bag k := by
  by_cases hk : k = protocolKey
  · exact iff_of_true (.inl hk) (.inl hk)
  · simp only [IsOwn, selects_congr (h hk)]

theorem erase_put (bag : PropertyBag) (k v : String) : (bag.put k v).erase k = bag.erase k := by
  apply ext_get?
  intro l
  by_cases hl : l = k
  · subst hl
    simp
  · simp [get?_erase_of_ne, get?_put_of_ne, hl]

/-! ### Variables -/

private theorem variableName_inj {name' : String} :
    variableName name = variableName name' ↔ name = name' :=
  String.append_right_inj _

/-- Keys and variables belong to each other one by one. -/
private theorem key_eq_iff_of_mem_environmentKeys {key' name' : String}
    (h : (key, name) ∈ environmentKeys (lookup (variableName "TRANSPORT_PROTOCOL")))
    (h' : (key', name') ∈ environmentKeys (lookup (variableName "TRANSPORT_PROTOCOL"))) :
    key = key' ↔ name = name' := by
  have hkeys := nodup_variableFields lookup
  have hnames : ((environmentKeys (lookup (variableName "TRANSPORT_PROTOCOL"))).map (·.2)).Nodup := by
    simp only [environmentKeys, List.map_cons, List.map_nil]
    decide
  rw [variableFields, List.map_map] at hkeys
  constructor
  · rintro rfl
    exact congrArg Prod.snd (List.inj_on_of_nodup_map hkeys h h' rfl)
  · rintro rfl
    exact congrArg Prod.fst (List.inj_on_of_nodup_map hnames h h' rfl)

section
variable (hvariable : lookup (variableName name) = some blank) (hblank : Text.trim blank = "")
include hvariable hblank

/-- A blank variable leaves the keys as they are without it. -/
private theorem environmentKeys_update :
    environmentKeys (Function.update lookup (variableName name) none (variableName "TRANSPORT_PROTOCOL")) =
      environmentKeys (lookup (variableName "TRANSPORT_PROTOCOL")) := by
  by_cases hname : name = "TRANSPORT_PROTOCOL"
  · subst hname
    have hnone : ∀ p : Protocol, ¬p.IsNamed blank := by
      intro p
      rw [Protocol.IsNamed, Text.keyword, hblank]
      cases p <;> decide
    have hparse : Protocol.parse blank =
        .error (.invalidProperty protocolKey (.unsupportedProtocol (Text.keyword blank))) :=
      Protocol.parse_eq_error_iff.2 ⟨hnone, rfl⟩
    simp only [Function.update_self, hvariable, environmentKeys, environmentTimeoutKey, Option.map_some,
      Option.map_none, hparse]
  · have hne : variableName "TRANSPORT_PROTOCOL" ≠ variableName name :=
      fun h => hname (variableName_inj.1 h).symm
    rw [Function.update_of_ne hne]

variable (hmem : (key, name) ∈ environmentKeys (lookup (variableName "TRANSPORT_PROTOCOL")))
include hmem

/-- A blank variable leaves its property empty, -/
theorem get?_environmentBag_of_blank : (environmentBag lookup).get? key = some "" := by
  rw [get?_environmentBag hmem, hvariable, Option.map_some, hblank]

/-- and without the variable there is no such property. -/
private theorem environmentBag_update :
    environmentBag (Function.update lookup (variableName name) none) = (environmentBag lookup).erase key := by
  have hkeys := environmentKeys_update hvariable hblank
  apply ext_get?
  intro l
  by_cases hl : l = key
  · subst hl
    rw [get?_erase_self, get?_environmentBag (hkeys ▸ hmem), Function.update_self, Option.map_none]
  · rw [get?_erase_of_ne _ hl]
    by_cases hl' : ∃ name', (l, name') ∈ environmentKeys (lookup (variableName "TRANSPORT_PROTOCOL"))
    · obtain ⟨name', hmem'⟩ := hl'
      have hname : name' ≠ name := fun h => hl ((key_eq_iff_of_mem_environmentKeys hmem' hmem).2 h)
      rw [get?_environmentBag hmem', get?_environmentBag (hkeys ▸ hmem'),
        Function.update_of_ne fun h => hname (variableName_inj.1 h)]
    · have hnone (lookup' : String → Option String) (hkeys' : environmentKeys
          (lookup' (variableName "TRANSPORT_PROTOCOL")) =
            environmentKeys (lookup (variableName "TRANSPORT_PROTOCOL"))) :
          (environmentBag lookup').get? l = none := by
        apply get?_environmentBag_of_not_mem
        rw [variableFields, List.map_map, hkeys']
        intro h
        obtain ⟨⟨_, name'⟩, hmem', rfl⟩ := List.mem_map.1 h
        exact hl' ⟨name', hmem'⟩
      rw [hnone _ hkeys, hnone lookup rfl]

/-- A blank variable of a setting that is read does what no variable does, but the variable of the protocol
makes a difference. -/
theorem ofEnvironment_eq_update_iff (hk : IsOwn (environmentBag lookup) key) :
    ofEnvironment lookup = ofEnvironment (Function.update lookup (variableName name) none) ↔
      key ≠ protocolKey := by
  rw [ofEnvironment, ofEnvironment, environmentBag_update hvariable hblank hmem,
    ofBag_eq_erase_iff (get?_environmentBag_of_blank hvariable hblank hmem) hk]

end

end Mailroom.Options
