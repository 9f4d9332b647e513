import Mailroom.Proofs.Properties.Flat

/-! Normal bags, which blanks do not matter to: they are what every way of filling a bag leads to, and
they are read from JSON as they were written. -/
namespace Mailroom.PropertyBag

variable {bag other : PropertyBag} {k key value : String}

def IsNormal (bag : PropertyBag) : Prop :=
  ∀ e ∈ bag.entries, Text.IsProper e.1 ∧ Text.trim e.2 = e.2

instance : Decidable bag.IsNormal :=
  inferInstanceAs (Decidable (∀ e ∈ bag.entries, Text.IsProper e.1 ∧ Text.trim e.2 = e.2))

theorem isNormal_iff :
    bag.IsNormal ↔ ∀ k v, bag.get? k = some v → Text.IsProper k ∧ Text.trim v = v := by
  constructor
  · intro h k v hv
    exact h (k, v) (mem_entries_iff.2 hv)
  · rintro h ⟨k, v⟩ he
    exact h k v (mem_entries_iff.1 he)

theorem isNormal_empty : empty.IsNormal := by simp [IsNormal, empty]

theorem IsNormal.put (hbag : bag.IsNormal) (hkey : Text.IsProper key) (hvalue : Text.trim value = value) :
    (bag.put key value).IsNormal := by
  rw [isNormal_iff] at hbag ⊢
  intro k v hv
  by_cases hk : k = key
  · subst hk
    rw [get?_put_self, Option.some.injEq] at hv
    exact ⟨hkey, hv ▸ hvalue⟩
  · rw [get?_put_of_ne bag hk] at hv
    exact hbag k v hv

theorem IsNormal.erase (hbag : bag.IsNormal) (key : String) : (bag.erase key).IsNormal :=
  fun e he => hbag e (List.mem_filter.1 he).1

theorem IsNormal.set (hbag : bag.IsNormal) (h : bag.set key value = .ok other) : other.IsNormal := by
  simp only [PropertyBag.set] at h
  split at h
  · exact absurd h (by simp)
  · next hempty =>
    obtain rfl := Except.ok.inj h
    have hkey : Text.IsProper (Text.trim key) := ⟨Text.trim_trim key, by simpa using hempty⟩
    exact hbag.put hkey (Text.trim_trim value)

theorem IsNormal.setIfNamed (hbag : bag.IsNormal) (key value : String) :
    (bag.setIfNamed key value).IsNormal := by
  unfold PropertyBag.setIfNamed
  split
  · next h => exact hbag.set h
  · exact hbag

/-- Properties that are set in turn leave a normal bag normal. -/
theorem IsNormal.foldl_setIfNamed (hbag : bag.IsNormal) (pairs : List (String × String)) :
    (pairs.foldl (fun bag (key, value) => bag.setIfNamed key value) bag).IsNormal := by
  induction pairs generalizing bag with
  | nil => exact hbag
  | cons pair pairs ih =>
    obtain ⟨key, value⟩ := pair
    rw [List.foldl_cons]
    exact ih (hbag.setIfNamed key value)

theorem isNormal_ofPairs (pairs : List (String × String)) : (ofPairs pairs).IsNormal :=
  isNormal_empty.foldl_setIfNamed pairs

theorem IsNormal.foldl_put (hbag : bag.IsNormal) {es : List (String × String)}
    (hes : ∀ e ∈ es, Text.IsProper e.1 ∧ Text.trim e.2 = e.2) :
    (es.foldl (fun bag (key, value) => bag.put key value) bag).IsNormal := by
  induction es generalizing bag with
  | nil => exact hbag
  | cons e es ih =>
    obtain ⟨hkey, hvalue⟩ := hes e (by simp)
    exact ih (hbag.put hkey hvalue) fun f hf => hes f (by simp [hf])

theorem IsNormal.merge (hbag : bag.IsNormal) (hother : other.IsNormal) : (bag.merge other).IsNormal :=
  hbag.foldl_put hother

theorem IsNormal.foldl_erase (hbag : bag.IsNormal) (keys : List String) :
    (keys.foldl PropertyBag.erase bag).IsNormal := by
  induction keys generalizing bag with
  | nil => exact hbag
  | cons key keys ih => exact ih (hbag.erase key)

/-! ### Changes -/

/-- A change keeps a bag normal, if what is merged is normal. -/
theorem IsNormal.edit (hbag : bag.IsNormal) {e : Edit} (he : ∀ other, e = .merge other → other.IsNormal) :
    (bag.edit e).2.IsNormal := by
  cases e with
  | set key value =>
    simp only [PropertyBag.edit]
    split
    · next h => exact hbag.set h
    · exact hbag
  | remove key => exact hbag.erase key
  | merge other => exact hbag.merge (he other rfl)
  | collect pairs => exact isNormal_ofPairs pairs

/-- Only setting a blank key is refused, and it leaves the bag as it is. -/
theorem edit_eq_error_iff {e : Edit} {f : PropertyFault} :
    bag.edit e = (.error f, other) ↔
      other = bag ∧ f = .blankKey ∧ ∃ key value, e = .set key value ∧ Text.trim key = "" := by
  cases e with
  | set key value =>
    cases hset : bag.set key value with
    | ok bag' =>
      have hkey : Text.trim key ≠ "" := fun h =>
        nomatch hset.symm.trans (set_eq_error_iff.2 ⟨h, rfl⟩)
      simp [edit, hset, hkey]
    | error g =>
      obtain ⟨hkey, rfl⟩ := set_eq_error_iff.1 hset
      have hedit : bag.edit (.set key value) = (.error .blankKey, bag) := by simp [edit, hset]
      rw [hedit]
      constructor
      · intro h
        obtain ⟨hf, rfl⟩ := Prod.mk.inj h
        exact ⟨rfl, (Except.error.inj hf).symm, key, value, rfl, hkey⟩
      · rintro ⟨rfl, rfl, -⟩
        rfl
  | remove key => simp [edit]
  | merge other => simp [edit]
  | collect pairs => simp [edit]

/-! ### Through JSON -/

/-- A bag that is read from JSON is normal. -/
theorem isNormal_of_ofJson {v : Json} (h : ofJson v = .ok bag) : bag.IsNormal := by
  obtain ⟨entries, -, hflat, hholds⟩ := ofJson_eq_ok_iff.1 h
  rw [isNormal_iff]
  intro k text hget
  obtain ⟨e, he, s, hs, rfl, rfl⟩ := (hholds k text).1 hget
  exact ⟨⟨Text.trim_trim e.1, hflat.named e he hs.ne_null⟩, Text.trim_trim s⟩

/-- Texts under keys are flat exactly if no key is blank, and no two are the same once trimmed. -/
theorem isFlat_strings_iff {es : List (String × String)} :
    IsFlat (es.map fun e => (e.1, Json.string e.2)) ↔
      (∀ e ∈ es, Text.trim e.1 ≠ "") ∧ es.Pairwise fun e f => Text.trim e.1 ≠ Text.trim f.1 := by
  have hne (s : String) : Json.string s ≠ .null := nofun
  have hscalar (s : String) : ¬(Json.string s).IsNested := (Json.IsWritten.string s).not_isNested
  constructor
  · rintro ⟨-, hnamed, hdistinct⟩
    rw [List.forall_mem_map] at hnamed
    rw [List.pairwise_map] at hdistinct
    exact ⟨fun e he => hnamed e he (hne _), hdistinct.imp fun hef => hef (hne _) (hne _)⟩
  · rintro ⟨hnamed, hdistinct⟩
    refine ⟨?_, ?_, ?_⟩
    · rw [List.forall_mem_map]
      exact fun e _ => hscalar e.2
    · rw [List.forall_mem_map]
      exact fun e he _ => hnamed e he
    · rw [List.pairwise_map]
      exact hdistinct.imp fun hef _ _ => hef

/-- A bag is read from JSON as it was written exactly if it is normal. -/
theorem ofJson_toJson_eq_self_iff (bag : PropertyBag) : ofJson bag.toJson = .ok bag ↔ bag.IsNormal := by
  refine ⟨isNormal_of_ofJson, fun h => ofJson_eq_ok_iff.2 ⟨_, rfl, isFlat_strings_iff.2 ⟨?_, ?_⟩, ?_⟩⟩
  · intro e he
    obtain ⟨⟨htrim, hne⟩, -⟩ := h e he
    rwa [htrim]
  · refine bag.inOrder.imp_of_mem fun he hf hlt => ?_
    rw [(h _ he).1.1, (h _ hf).1.1]
    exact String.ne_of_lt hlt
  · intro k text
    rw [← mem_entries_iff]
    constructor
    · intro hmem
      obtain ⟨⟨hk, -⟩, htext⟩ := h _ hmem
      exact ⟨_, List.mem_map_of_mem hmem, text, .string text, hk.symm, htext.symm⟩
    · rintro ⟨e, he, s, hs, rfl, rfl⟩
      obtain ⟨⟨key, value⟩, hmem, rfl⟩ := List.mem_map.1 he
      cases hs
      obtain ⟨⟨hk, -⟩, htext⟩ := h _ hmem
      rwa [hk, htext]

/-- A bag cannot be read from JSON as it was written exactly if one of its keys is blank, or blanks are
all that keeps two of them apart. -/
theorem exists_ofJson_toJson_eq_error_iff (bag : PropertyBag) :
    (∃ f, ofJson bag.toJson = .error f) ↔
      (∃ e ∈ bag.entries, Text.trim e.1 = "") ∨
        ∃ e ∈ bag.entries, ∃ e' ∈ bag.entries, e.1 ≠ e'.1 ∧ Text.trim e.1 = Text.trim e'.1 := by
  have herror : (∃ f, ofJson bag.toJson = .error f) ↔ ¬∃ other, ofJson bag.toJson = .ok other := by
    cases ofJson bag.toJson with
    | error f => simp
    | ok other => simp
  have hpairs := bag.inOrder.pairwise_iff (R := fun k l => Text.trim k ≠ Text.trim l)
    fun _ _ => Ne.symm
  have hflat : (∃ other, ofJson bag.toJson = .ok other) ↔
      (∀ e ∈ bag.entries, Text.trim e.1 ≠ "") ∧
        bag.entries.Pairwise fun e f => Text.trim e.1 ≠ Text.trim f.1 := by
    rw [exists_ofJson_eq_ok_iff, ← isFlat_strings_iff, toJson]
    simp only [Json.object.injEq, exists_eq_left']
  rw [herror, hflat, hpairs]
  simp only [ne_eq, not_and_or, not_forall, not_not, exists_prop]

end Mailroom.PropertyBag
