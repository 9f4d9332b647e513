import Mathlib.Data.List.Nodup
import Mailroom.Proofs.Entries
import Mailroom.Proofs.Text.Trimming
import Mailroom.Properties.Basic

/-! What is found in a bag of properties, and that nothing else makes up the bag. -/
namespace Mailroom.PropertyBag

variable {bag other : PropertyBag} {k key value : String}

theorem mem_entries_iff : (k, value) ∈ bag.entries ↔ bag.get? k = some value :=
  ⟨bag.inOrder.get?_of_mem, Entries.mem_of_get?⟩

/-- Bags are the same if the same is found in them. -/
theorem ext_get? (h : ∀ k, bag.get? k = other.get? k) : bag = other := by
  obtain ⟨es, hes⟩ := bag
  obtain ⟨fs, hfs⟩ := other
  obtain rfl : es = fs := hes.ext hfs h
  rfl

theorem set_eq_error_iff {f : PropertyFault} :
    bag.set key value = .error f ↔ Text.trim key = "" ∧ f = .blankKey := by
  simp only [PropertyBag.set, String.isEmpty_iff]
  split
  · next hkey => simp only [hkey, true_and, Except.error.injEq, eq_comm]
  · next hkey => simp only [hkey, false_and, reduceCtorEq]

private theorem setIfNamed_of_isProper (h : Text.IsProper key) (bag : PropertyBag)
    (value : String) :
    bag.setIfNamed key value = bag.put key (Text.trim value) := by
  have hkey : key.isEmpty = false := by simpa using h.2
  simp [setIfNamed, set, h.1, hkey]

section
variable {settings : List (String × String)}

theorem get?_foldl_of_not_mem (bag : PropertyBag) (hkeys : ∀ s ∈ settings, Text.IsProper s.1)
    (h : k ∉ settings.map (·.1)) :
    (settings.foldl (fun bag (key, value) => bag.setIfNamed key value) bag).get? k = bag.get? k := by
  induction settings generalizing bag with
  | nil => rfl
  | cons s settings ih =>
    simp only [List.map_cons, List.mem_cons, not_or] at h
    have hkey : Text.IsProper s.1 := hkeys s (by simp)
    rw [List.foldl_cons, ih _ (fun s hs => hkeys s (by simp [hs])) h.2]
    simp only [setIfNamed_of_isProper hkey, get?_put_of_ne bag h.1]

/-- Of properties with different keys that are set in turn, each is found, with its value trimmed. -/
theorem get?_foldl_of_mem (bag : PropertyBag) (hkeys : ∀ s ∈ settings, Text.IsProper s.1)
    (hnodup : (settings.map (·.1)).Nodup) (h : (k, value) ∈ settings) :
    (settings.foldl (fun bag (key, value) => bag.setIfNamed key value) bag).get? k =
      some (Text.trim value) := by
  induction settings generalizing bag with
  | nil => simp at h
  | cons s settings ih =>
    simp only [List.map_cons, List.nodup_cons] at hnodup
    have htail : ∀ s ∈ settings, Text.IsProper s.1 := fun s hs => hkeys s (by simp [hs])
    rw [List.foldl_cons]
    rcases List.mem_cons.1 h with rfl | h
    · have hkey : Text.IsProper k := hkeys (k, value) (by simp)
      rw [get?_foldl_of_not_mem _ htail hnodup.1]
      simp only [setIfNamed_of_isProper hkey, get?_put_self]
    · exact ih _ htail hnodup.2 h

end

/-- What several pairs come to for a key: the value of the last pair with that key, both without the blanks
around them. -/
def lastValue? (k : String) (pairs : List (String × String)) : Option String :=
  pairs.reverse.findSome? fun (key, value) => if Text.trim key = k then some (Text.trim value) else none

/-- Of properties that are set in turn, the last one holds. -/
theorem get?_foldl_setIfNamed (bag : PropertyBag) (pairs : List (String × String)) (hk : k ≠ "") :
    (pairs.foldl (fun bag (key, value) => bag.setIfNamed key value) bag).get? k =
      (lastValue? k pairs).or (bag.get? k) := by
  induction pairs generalizing bag with
  | nil => rfl
  | cons pair pairs ih =>
    obtain ⟨key, value⟩ := pair
    have hlast : lastValue? k ((key, value) :: pairs) =
        (lastValue? k pairs).or (if Text.trim key = k then some (Text.trim value) else none) := by
      simp [lastValue?, List.findSome?_append]
    have hset : (bag.setIfNamed key value).get? k =
        (if Text.trim key = k then some (Text.trim value) else none).or (bag.get? k) := by
      by_cases hkey : Text.trim key = k
      · subst hkey
        simp [setIfNamed, set, hk]
      · by_cases hempty : Text.trim key = ""
        · simp [setIfNamed, set, hempty, Ne.symm hk]
        · simp [setIfNamed, set, hempty, hkey, get?_put_of_ne bag (Ne.symm hkey)]
    rw [List.foldl_cons, ih, hset, hlast, Option.or_assoc]

theorem get?_ofPairs (pairs : List (String × String)) (hk : k ≠ "") :
    (ofPairs pairs).get? k = lastValue? k pairs := by
  rw [ofPairs, get?_foldl_setIfNamed _ _ hk, get?_empty, Option.or_none]

theorem get?_ofPairs_eq_none_iff (pairs : List (String × String)) (hk : k ≠ "") :
    (ofPairs pairs).get? k = none ↔ ∀ pair ∈ pairs, Text.trim pair.1 ≠ k := by
  rw [get?_ofPairs _ hk, lastValue?, List.findSome?_eq_none_iff]
  simp

def presentPairs (fields : List (String × Option String)) : List (String × String) :=
  fields.filterMap fun (key, value) => value.map (key, ·)

theorem keys_presentPairs_sublist (fields : List (String × Option String)) :
    ((presentPairs fields).map (·.1)).Sublist (fields.map (·.1)) := by
  induction fields with
  | nil => exact .refl _
  | cons field fields ih =>
    obtain ⟨key, value⟩ := field
    cases value with
    | none => exact ih.cons _
    | some value => exact ih.cons_cons _

/-- Of fields with different keys that are set over a bag, each is found with its value, and what has none
is found as it was. -/
theorem get?_foldl_presentPairs (bag : PropertyBag) {fields : List (String × Option String)}
    {value : Option String} (hkeys : ∀ field ∈ fields, Text.IsProper field.1)
    (hnodup : (fields.map (·.1)).Nodup) (h : (k, value) ∈ fields) :
    ((presentPairs fields).foldl (fun bag (key, value) => bag.setIfNamed key value) bag).get? k =
      (value.map Text.trim).or (bag.get? k) := by
  have hproper : ∀ pair ∈ presentPairs fields, Text.IsProper pair.1 := by
    intro pair hpair
    obtain ⟨field, hfield, heq⟩ := List.mem_map.1
      ((keys_presentPairs_sublist fields).subset (List.mem_map_of_mem hpair))
    exact heq ▸ hkeys field hfield
  cases value with
  | some value =>
    have hmem : (k, value) ∈ presentPairs fields := List.mem_filterMap.2 ⟨_, h, rfl⟩
    rw [get?_foldl_of_mem bag hproper ((keys_presentPairs_sublist fields).nodup hnodup) hmem]
    rfl
  | none =>
    rw [get?_foldl_of_not_mem bag hproper]
    · rfl
    · intro hk
      -- a pair of this key would come from a second field of it
      obtain ⟨⟨key, v⟩, hpair, rfl⟩ := List.mem_map.1 hk
      obtain ⟨⟨key', value⟩, hfield, heq⟩ := List.mem_filterMap.1 hpair
      obtain ⟨w, rfl, hw⟩ := Option.map_eq_some_iff.1 heq
      obtain ⟨rfl, rfl⟩ := Prod.mk.inj hw
      exact nomatch congrArg Prod.snd (List.inj_on_of_nodup_map hnodup h hfield rfl)

theorem get?_foldl_erase (bag : PropertyBag) (keys : List String) (k : String) :
    (keys.foldl PropertyBag.erase bag).get? k = if k ∈ keys then none else bag.get? k := by
  induction keys generalizing bag with
  | nil => simp
  | cons key keys ih =>
    rw [List.foldl_cons, ih]
    by_cases hk : k ∈ keys
    · simp [hk]
    · by_cases hkey : k = key
      · simp [hkey]
      · simp [hk, hkey, get?_erase_of_ne]

private theorem get?_foldl_put (bag : PropertyBag) {es : List (String × String)}
    (hes : Entries.InOrder es) (k : String) :
    (es.foldl (fun bag (key, value) => bag.put key value) bag).get? k =
      (Entries.get? k es).or (bag.get? k) := by
  induction es generalizing bag with
  | nil => rfl
  | cons e es ih =>
    obtain ⟨key, value⟩ := e
    obtain ⟨hlt, hes⟩ := List.pairwise_cons.1 hes
    rw [List.foldl_cons, ih _ hes]
    by_cases hk : k = key
    · subst hk
      have hnone : Entries.get? k es = none :=
        Entries.get?_eq_none_of_forall_ne fun f hf => (String.ne_of_lt (hlt f hf)).symm
      simp [Entries.get?, hnone]
    · simp [Entries.get?, hk, get?_put_of_ne bag hk]

/-- What is laid over a bag is found first. -/
theorem get?_merge (bag other : PropertyBag) (k : String) :
    (bag.merge other).get? k = (other.get? k).or (bag.get? k) :=
  get?_foldl_put bag other.inOrder k

end Mailroom.PropertyBag
