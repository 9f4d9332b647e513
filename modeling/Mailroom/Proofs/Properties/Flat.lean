import Mathlib.Data.List.Induction
import Mailroom.Proofs.Outcome
import Mailroom.Proofs.Properties.Lookup
import Mailroom.Properties.Json

/-! The JSON values that are read as bags: objects of scalars whose keys blanks neither make up nor keep apart.
In any other object the first entry that is wrong is reported. -/
namespace Mailroom

/-! ### Values -/

namespace Json

inductive IsNested : Json → Prop
  | array (items : List Json) : IsNested (.array items)
  | object (entries : List (String × Json)) : IsNested (.object entries)

inductive IsWritten : Json → String → Prop
  | string (s : String) : IsWritten (.string s) s
  | true : IsWritten (.bool .true) "true"
  | false : IsWritten (.bool .false) "false"
  | number (n : JsonNumber) : IsWritten (.number n) n.render

variable {v : Json} {s t : String}

theorem IsWritten.unique (hs : IsWritten v s) (ht : IsWritten v t) : s = t := by
  cases hs <;> cases ht <;> rfl

theorem IsWritten.ne_null (h : IsWritten v s) : v ≠ .null := by
  cases h <;> simp

theorem IsWritten.not_isNested (h : IsWritten v s) : ¬v.IsNested := by
  cases h <;> rintro ⟨⟩

theorem IsNested.ne_null (h : v.IsNested) : v ≠ .null := by
  cases h <;> simp

/-- A value is null, a container or a scalar. -/
theorem eq_null_or_isNested_or_isWritten (v : Json) : v = .null ∨ v.IsNested ∨ ∃ s, v.IsWritten s := by
  cases v with
  | null => exact .inl rfl
  | bool b => cases b <;> exact .inr (.inr ⟨_, by constructor⟩)
  | number n => exact .inr (.inr ⟨_, .number n⟩)
  | string s => exact .inr (.inr ⟨_, .string s⟩)
  | array items => exact .inr (.inl (.array items))
  | object entries => exact .inr (.inl (.object entries))

end Json

namespace PropertyBag

open Json (IsNested IsWritten)

variable {bag other : PropertyBag} {key k text : String} {v : Json} {f : PropertyFault} {e : String × Json}
  {before after entries es : List (String × Json)}

private theorem scalarText_of_isWritten (hv : v.IsWritten text) :
    scalarText key v = .ok (some text) := by
  cases hv <;> rfl

/-! ### Objects -/

def Says (e : String × Json) (k text : String) : Prop :=
  ∃ s, e.2.IsWritten s ∧ k = Text.trim e.1 ∧ text = Text.trim s

def Holds (bag : PropertyBag) (entries : List (String × Json)) : Prop :=
  ∀ k text, bag.get? k = some text ↔ ∃ e ∈ entries, Says e k text

/-- No value is a container, and of the entries with a value no key is blank, nor are two the same once
trimmed. -/
structure IsFlat (entries : List (String × Json)) : Prop where
  scalar : ∀ e ∈ entries, ¬e.2.IsNested
  named : ∀ e ∈ entries, e.2 ≠ .null → Text.trim e.1 ≠ ""
  distinct : entries.Pairwise fun e f => e.2 ≠ .null → f.2 ≠ .null → Text.trim e.1 ≠ Text.trim f.1

/-- What is wrong with an entry beside others: the first of a container, a key that is there already and a
blank key. -/
inductive Offends (others : List (String × Json)) : String × Json → PropertyFault → Prop
  | nested {key : String} {v : Json} (hv : v.IsNested) : Offends others (key, v) (.notScalar key v.kind)
  | duplicate {key text : String} {v : Json} {e : String × Json} (hv : v.IsWritten text) (he : e ∈ others)
      (hvalue : e.2 ≠ .null) (hkey : Text.trim e.1 = Text.trim key) :
      Offends others (key, v) (.duplicateKey (Text.trim key))
  | blank {key text : String} {v : Json} (hv : v.IsWritten text)
      (hothers : ∀ e ∈ others, e.2 ≠ .null → Text.trim e.1 ≠ Text.trim key) (hkey : Text.trim key = "") :
      Offends others (key, v) .blankKey

/-- The fault is that of the first entry that is wrong beside those before it. -/
def IsFirstOffence (entries : List (String × Json)) (f : PropertyFault) : Prop :=
  ∃ before e after, entries = before ++ e :: after ∧ IsFlat before ∧ Offends before e f

/-- Why a value is not read as a bag. -/
inductive HasFault : Json → PropertyFault → Prop
  | shape {v : Json} (hv : ∀ entries, v ≠ .object entries) : HasFault v (.notObject v.kind)
  | entry {entries : List (String × Json)} {f : PropertyFault} (h : IsFirstOffence entries f) :
      HasFault (.object entries) f

theorem Offends.ne_null (h : Offends es (key, v) f) : v ≠ .null := by
  cases h with
  | nested hv => exact hv.ne_null
  | duplicate hv => exact hv.ne_null
  | blank hv => exact hv.ne_null

/-- The order of entries does not matter. -/
theorem IsFlat.perm (h : IsFlat entries) (hperm : entries.Perm es) : IsFlat es where
  scalar e he := h.scalar e (hperm.mem_iff.2 he)
  named e he := h.named e (hperm.mem_iff.2 he)
  distinct := by
    refine (hperm.pairwise_iff ?_).1 h.distinct
    exact fun hef hf he heq => hef he hf heq.symm

theorem IsFlat.sublist (h : IsFlat entries) (hsub : es.Sublist entries) : IsFlat es where
  scalar e he := h.scalar e (hsub.subset he)
  named e he := h.named e (hsub.subset he)
  distinct := h.distinct.sublist hsub

private theorem isFlat_nil : IsFlat [] := ⟨by simp, by simp, .nil⟩

/-- An object stays flat exactly if nothing is wrong with an entry beside the others. -/
theorem isFlat_cons_iff : IsFlat (e :: es) ↔ IsFlat es ∧ ∀ f, ¬Offends es e f := by
  obtain ⟨key, v⟩ := e
  constructor
  · intro h
    refine ⟨h.sublist (List.sublist_cons_self _ _), fun f hf => ?_⟩
    cases hf with
    | nested hv => exact h.scalar _ List.mem_cons_self hv
    | @duplicate _ _ _ d hv hd hvalue hkey =>
      exact (List.pairwise_cons.1 h.distinct).1 d hd hv.ne_null hvalue hkey.symm
    | blank hv _ hkey => exact h.named _ List.mem_cons_self hv.ne_null hkey
  · rintro ⟨hes, hoffends⟩
    have hscalar : ¬v.IsNested := fun hv => hoffends _ (.nested hv)
    have hwritten (hv : v ≠ .null) : ∃ text, v.IsWritten text :=
      (v.eq_null_or_isNested_or_isWritten.resolve_left hv).resolve_left hscalar
    have hothers (hv : v ≠ .null) : ∀ d ∈ es, d.2 ≠ .null → Text.trim d.1 ≠ Text.trim key := by
      intro d hd hvalue hkey
      obtain ⟨text, htext⟩ := hwritten hv
      exact hoffends _ (.duplicate htext hd hvalue hkey)
    refine ⟨List.forall_mem_cons.2 ⟨hscalar, hes.scalar⟩, List.forall_mem_cons.2 ⟨?_, hes.named⟩,
      List.pairwise_cons.2 ⟨?_, hes.distinct⟩⟩
    · intro hv hkey
      obtain ⟨text, htext⟩ := hwritten hv
      exact hoffends _ (.blank htext (hothers hv) hkey)
    · exact fun d hd hv hvalue hkey => hothers hv d hd hvalue hkey.symm

private theorem isFlat_middle_iff :
    IsFlat (before ++ e :: after) ↔ IsFlat (before ++ after) ∧ ∀ f, ¬Offends (before ++ after) e f := by
  rw [← isFlat_cons_iff]
  exact ⟨fun h => h.perm List.perm_middle, fun h => h.perm List.perm_middle.symm⟩

private theorem IsFirstOffence.not_isFlat (h : IsFirstOffence entries f) : ¬IsFlat entries := by
  obtain ⟨before, e, after, rfl, -, hoffends⟩ := h
  intro hflat
  have hsub : (before ++ [e]).Sublist (before ++ e :: after) := by simp
  exact (isFlat_middle_iff.1 (hflat.sublist hsub)).2 f (by simpa using hoffends)

/-- One bag holds what the entries say. -/
theorem Holds.unique (hbag : Holds bag entries) (hother : Holds other entries) : bag = other := by
  apply ext_get?
  intro k
  ext text
  exact (hbag k text).trans (hother k text).symm

private theorem holds_empty : Holds empty [] := by simp [Holds]

theorem Holds.perm (h : Holds bag entries) (hperm : entries.Perm es) : Holds bag es := by
  intro k text
  simp only [h k text, hperm.mem_iff]

/-- Nothing is found under a key that no entry with a value has. -/
theorem Holds.get?_eq_none_iff (h : Holds bag entries) (hflat : IsFlat entries) :
    bag.get? k = none ↔ ∀ e ∈ entries, e.2 ≠ .null → Text.trim e.1 ≠ k := by
  constructor
  · rintro hnone e he hvalue rfl
    obtain ⟨s, hs⟩ := (e.2.eq_null_or_isNested_or_isWritten.resolve_left hvalue).resolve_left
      (hflat.scalar e he)
    cases hnone.symm.trans ((h _ _).2 ⟨e, he, s, hs, rfl, rfl⟩)
  · intro hall
    rw [Option.eq_none_iff_forall_ne_some]
    intro text htext
    obtain ⟨e, he, s, hs, hk, -⟩ := (h _ _).1 htext
    exact hall e he hs.ne_null hk.symm

/-! ### Reading -/

theorem addEntry_null (bag : PropertyBag) (key : String) : bag.addEntry key .null = .ok bag := rfl

private theorem addEntry_of_isNested (bag : PropertyBag) (key : String) (hv : v.IsNested) :
    bag.addEntry key v = .error (.notScalar key v.kind) := by
  cases hv <;> rfl

private theorem addEntry_of_isWritten (bag : PropertyBag) (key : String) (hv : v.IsWritten text) :
    bag.addEntry key v =
      if (bag.get? (Text.trim key)).isSome then .error (.duplicateKey (Text.trim key))
      else bag.set key text := by
  simp only [addEntry, scalarText_of_isWritten hv, bind, Except.bind]
  split
  · rfl
  · rfl

theorem addEntry_eq_ok_iff :
    bag.addEntry key v = .ok other ↔
      v = .null ∧ bag = other ∨
        ∃ text, v.IsWritten text ∧ bag.get? (Text.trim key) = none ∧ Text.trim key ≠ "" ∧
          bag.put (Text.trim key) (Text.trim text) = other := by
  rcases v.eq_null_or_isNested_or_isWritten with rfl | hv | ⟨s, hs⟩
  · rw [addEntry_null, Except.ok.injEq]
    refine ⟨fun h => .inl ⟨rfl, h⟩, ?_⟩
    rintro (⟨-, h⟩ | ⟨text, htext, -⟩)
    · exact h
    · cases htext
  · rw [addEntry_of_isNested bag key hv]
    refine iff_of_false (by simp) ?_
    rintro (⟨hnull, -⟩ | ⟨text, htext, -⟩)
    · exact hv.ne_null hnull
    · exact htext.not_isNested hv
  · have hset : bag.addEntry key v = .ok other ↔
        bag.get? (Text.trim key) = none ∧ Text.trim key ≠ "" ∧
          bag.put (Text.trim key) (Text.trim s) = other := by
      rw [addEntry_of_isWritten bag key hs]
      cases bag.get? (Text.trim key) with
      | some text => simp
      | none => by_cases hkey : Text.trim key = "" <;> simp [set, hkey]
    rw [hset, or_iff_right fun h => hs.ne_null h.1]
    refine ⟨fun h => ⟨s, hs, h⟩, ?_⟩
    rintro ⟨text, htext, h⟩
    obtain rfl := hs.unique htext
    exact h

/-- In a bag of flat entries, an entry is refused for what is wrong with it beside those. -/
private theorem Holds.addEntry_eq_error_iff (h : Holds bag entries) (hflat : IsFlat entries) :
    bag.addEntry key v = .error f ↔ Offends entries (key, v) f := by
  rcases v.eq_null_or_isNested_or_isWritten with rfl | hv | ⟨s, hs⟩
  · rw [addEntry_null]
    exact iff_of_false (by simp) fun hoffends => hoffends.ne_null rfl
  · rw [addEntry_of_isNested bag key hv, Except.error.injEq]
    constructor
    · rintro rfl
      exact .nested hv
    · intro hoffends
      cases hoffends with
      | nested _ => rfl
      | duplicate htext => exact absurd hv htext.not_isNested
      | blank htext => exact absurd hv htext.not_isNested
  · rw [addEntry_of_isWritten bag key hs]
    by_cases hnone : bag.get? (Text.trim key) = none
    · have hothers := (h.get?_eq_none_iff hflat).1 hnone
      rw [hnone, Option.isSome_none, if_neg Bool.false_ne_true, set_eq_error_iff]
      constructor
      · rintro ⟨hkey, rfl⟩
        exact .blank hs hothers hkey
      · intro hoffends
        cases hoffends with
        | nested hv => exact absurd hv hs.not_isNested
        | duplicate _ he hvalue hkey => exact absurd hkey (hothers _ he hvalue)
        | blank _ _ hkey => exact ⟨hkey, rfl⟩
    · rw [Option.isSome_iff_ne_none.2 hnone, if_pos rfl, Except.error.injEq]
      rw [h.get?_eq_none_iff hflat] at hnone
      constructor
      · rintro rfl
        push Not at hnone
        obtain ⟨e, he, hvalue, hkey⟩ := hnone
        exact .duplicate hs he hvalue hkey
      · intro hoffends
        cases hoffends with
        | nested hv => exact absurd hv hs.not_isNested
        | duplicate => rfl
        | blank _ hothers _ => exact absurd hothers hnone

/-- An entry that is added is said by the bag as well. -/
theorem Holds.addEntry (h : Holds bag entries) (hadd : bag.addEntry key v = .ok other) :
    Holds other ((key, v) :: entries) := by
  intro k text
  simp only [List.exists_mem_cons_iff, ← h k text]
  rcases addEntry_eq_ok_iff.1 hadd with ⟨rfl, rfl⟩ | ⟨s, hs, hnone, -, rfl⟩
  · refine (or_iff_right ?_).symm
    rintro ⟨s, hs, -⟩
    cases hs
  · have hentry : Says (key, v) k text ↔ k = Text.trim key ∧ text = Text.trim s := by
      refine ⟨?_, fun h => ⟨s, hs, h⟩⟩
      rintro ⟨t, ht, h⟩
      rwa [hs.unique ht]
    rw [hentry]
    by_cases hk : k = Text.trim key
    · subst hk
      simp [hnone, eq_comm]
    · simp [hk, get?_put_of_ne bag hk]

def addEntries (bag : PropertyBag) (entries : List (String × Json)) : Except PropertyFault PropertyBag :=
  entries.foldlM (fun bag (key, value) => bag.addEntry key value) bag

private theorem addEntries_concat (bag : PropertyBag) (entries : List (String × Json))
    (e : String × Json) :
    bag.addEntries (entries ++ [e]) = bag.addEntries entries >>= fun bag => bag.addEntry e.1 e.2 := by
  simp [addEntries, List.foldlM_append]

/-- Adding entries to the empty bag leads to what they say if they are flat, and to the first fault if not. -/
private theorem addEntries_outcome (entries : List (String × Json)) :
    (∃ bag, empty.addEntries entries = .ok bag ∧ IsFlat entries ∧ Holds bag entries) ∨
      ∃ f, empty.addEntries entries = .error f ∧ IsFirstOffence entries f := by
  induction entries using List.reverseRecOn with
  | nil => exact .inl ⟨empty, rfl, isFlat_nil, holds_empty⟩
  | append_singleton entries e ih =>
    rw [addEntries_concat]
    rcases ih with ⟨bag, hbag, hflat, hholds⟩ | ⟨f, hf, before, d, after, rfl, hoffence⟩
    · rw [hbag]
      cases hadd : bag.addEntry e.1 e.2 with
      | ok other =>
        have hperm : (e :: entries).Perm (entries ++ [e]) := (List.perm_append_singleton e entries).symm
        refine .inl ⟨other, hadd, IsFlat.perm (isFlat_cons_iff.2 ⟨hflat, fun f hf => ?_⟩) hperm,
          (hholds.addEntry hadd).perm hperm⟩
        cases hadd.symm.trans ((hholds.addEntry_eq_error_iff hflat).2 hf)
      | error f =>
        exact .inr ⟨f, hadd, entries, e, [], rfl, hflat, (hholds.addEntry_eq_error_iff hflat).1 hadd⟩
    · rw [hf]
      exact .inr ⟨f, rfl, before, d, after ++ [e], by simp, hoffence⟩

theorem addEntries_eq_ok_iff : empty.addEntries entries = .ok bag ↔ IsFlat entries ∧ Holds bag entries := by
  rcases addEntries_outcome entries with ⟨other, hother, hflat, hholds⟩ | ⟨f, hf, hoffence⟩
  · rw [hother, Except.ok.injEq]
    constructor
    · rintro rfl
      exact ⟨hflat, hholds⟩
    · exact fun h => hholds.unique h.2
  · rw [hf]
    exact iff_of_false (by simp) fun h => hoffence.not_isFlat h.1

private theorem exists_addEntries_eq_ok (h : IsFlat entries) :
    ∃ bag, empty.addEntries entries = .ok bag ∧ Holds bag entries := by
  rcases addEntries_outcome entries with ⟨bag, hbag, -, hholds⟩ | ⟨f, -, hoffence⟩
  · exact ⟨bag, hbag, hholds⟩
  · exact absurd h hoffence.not_isFlat

theorem addEntries_eq_error_iff : empty.addEntries entries = .error f ↔ IsFirstOffence entries f := by
  constructor
  · intro herror
    rcases addEntries_outcome entries with ⟨bag, hbag, -⟩ | ⟨f', hf, hoffence⟩
    · cases herror.symm.trans hbag
    · obtain rfl := Except.error.inj (herror.symm.trans hf)
      exact hoffence
  · rintro ⟨before, e, after, rfl, hflat, hoffends⟩
    obtain ⟨bag, hbag, hholds⟩ := exists_addEntries_eq_ok hflat
    have hadd : bag.addEntry e.1 e.2 = .error f := (hholds.addEntry_eq_error_iff hflat).2 hoffends
    have hsplit : before ++ e :: after = before ++ [e] ++ after := by simp
    rw [hsplit, addEntries, List.foldlM_append, ← addEntries, addEntries_concat, hbag]
    exact bind_eq_error_iff.2 (.inl hadd)

theorem ofJson_object (entries : List (String × Json)) :
    ofJson (.object entries) = empty.addEntries entries := rfl

theorem ofJson_of_not_object (hv : ∀ entries, v ≠ .object entries) : ofJson v = .error (.notObject v.kind) := by
  cases v with
  | object entries => exact absurd rfl (hv entries)
  | _ => rfl

theorem ofJson_eq_ok_iff :
    ofJson v = .ok bag ↔ ∃ entries, v = .object entries ∧ IsFlat entries ∧ Holds bag entries := by
  by_cases hv : ∃ entries, v = .object entries
  · obtain ⟨entries, rfl⟩ := hv
    simp [ofJson_object, addEntries_eq_ok_iff]
  · rw [ofJson_of_not_object (not_exists.1 hv)]
    refine iff_of_false (by simp) ?_
    rintro ⟨entries, hentries, -⟩
    exact hv ⟨entries, hentries⟩

theorem exists_ofJson_eq_ok_iff :
    (∃ bag, ofJson v = .ok bag) ↔ ∃ entries, v = .object entries ∧ IsFlat entries := by
  simp only [ofJson_eq_ok_iff]
  constructor
  · rintro ⟨bag, entries, hv, hflat, -⟩
    exact ⟨entries, hv, hflat⟩
  · rintro ⟨entries, hv, hflat⟩
    obtain ⟨bag, -, hholds⟩ := exists_addEntries_eq_ok hflat
    exact ⟨bag, entries, hv, hflat, hholds⟩

theorem ofJson_eq_error_iff : ofJson v = .error f ↔ HasFault v f := by
  by_cases hv : ∃ entries, v = .object entries
  · obtain ⟨entries, rfl⟩ := hv
    rw [ofJson_object, addEntries_eq_error_iff]
    refine ⟨.entry, fun h => ?_⟩
    cases h with
    | shape hv => exact absurd rfl (hv entries)
    | entry h => exact h
  · have hshape := not_exists.1 hv
    rw [ofJson_of_not_object hshape, Except.error.injEq]
    constructor
    · rintro rfl
      exact .shape hshape
    · intro h
      cases h with
      | shape _ => rfl
      | entry _ => exact absurd rfl (hshape _)

/-- An entry among those of an object is added to their bag. -/
theorem ofJson_insert (h : ofJson (.object (before ++ after)) = .ok bag) (hadd : bag.addEntry key v = .ok other) :
    ofJson (.object (before ++ (key, v) :: after)) = .ok other := by
  rw [ofJson_object, addEntries_eq_ok_iff] at h ⊢
  obtain ⟨hflat, hholds⟩ := h
  refine ⟨isFlat_middle_iff.2 ⟨hflat, fun f hf => ?_⟩, (hholds.addEntry hadd).perm List.perm_middle.symm⟩
  cases hadd.symm.trans ((hholds.addEntry_eq_error_iff hflat).2 hf)

/-- A container among the entries of an object is what is wrong with it. -/
theorem ofJson_insert_of_isNested (h : ofJson (.object (before ++ after)) = .ok bag) (hv : v.IsNested) :
    ofJson (.object (before ++ (key, v) :: after)) = .error (.notScalar key v.kind) := by
  rw [ofJson_object, addEntries_eq_ok_iff] at h
  rw [ofJson_object, addEntries_eq_error_iff]
  exact ⟨before, (key, v), after, rfl, h.1.sublist (List.sublist_append_left _ _), .nested hv⟩

def below (key : String) (entries : List (String × Json)) : List (String × Json) :=
  entries.filter (·.1 < key)

/-- In the order of keys, what comes before an entry are the entries with lesser keys. -/
theorem isFirstOffence_iff_of_inOrder (h : Entries.InOrder entries) :
    IsFirstOffence entries f ↔
      ∃ e ∈ entries, IsFlat (below e.1 entries) ∧ Offends (below e.1 entries) e f := by
  constructor
  · rintro ⟨before, e, after, rfl, hoffence⟩
    refine ⟨e, by simp, ?_⟩
    rwa [below, h.filter_lt]
  · rintro ⟨e, he, hoffence⟩
    obtain ⟨before, after, rfl⟩ := List.append_of_mem he
    rw [below, h.filter_lt] at hoffence
    exact ⟨before, e, after, rfl, hoffence⟩

/-- A JSON value is read as a bag exactly if it is a flat object, and the bag holds what the entries say and
nothing else. Any other value is refused, an object for its first entry that is wrong, which is the one with
the least key where the entries are in the order of their keys. Null entries are as good as none. -/
theorem ofJson_reads_flat_objects (v : Json) :
    ((∃ bag, ofJson v = .ok bag) ↔ ∃ entries, v = .object entries ∧ IsFlat entries) ∧
      (∀ bag, ofJson v = .ok bag ↔ ∃ entries, v = .object entries ∧ IsFlat entries ∧ Holds bag entries) ∧
      (∀ f, ofJson v = .error f ↔ HasFault v f) ∧
      (∀ entries, v = .object entries → Entries.InOrder entries → ∀ f, ofJson v = .error f ↔
        ∃ e ∈ entries, IsFlat (below e.1 entries) ∧ Offends (below e.1 entries) e f) ∧
      ∀ before key after, v = .object (before ++ (key, .null) :: after) →
        ofJson v = ofJson (.object (before ++ after)) := by
  refine ⟨exists_ofJson_eq_ok_iff, fun _ => ofJson_eq_ok_iff, fun _ => ofJson_eq_error_iff, ?_, ?_⟩
  · rintro entries rfl horder f
    rw [ofJson_object, addEntries_eq_error_iff, isFirstOffence_iff_of_inOrder horder]
  · rintro before key after rfl
    simp only [ofJson_object, addEntries, List.foldlM_append, List.foldlM_cons, addEntry_null]
    rfl

def tangledEntries : List (String × Json) :=
  [(" ", .null), (" team", .string "post"), ("team", .bool true), ("team ", .array [])]

/-- The first fault is that of the second key, with and without the null entry. -/
theorem tangledEntries_are_refused :
    Entries.InOrder tangledEntries ∧
      (∃ e ∈ tangledEntries, IsFlat (below e.1 tangledEntries) ∧
        Offends (below e.1 tangledEntries) e (.duplicateKey "team")) ∧
      ofJson (.object tangledEntries.tail) = .error (.duplicateKey "team") := by
  have ⟨_, _, _, horder, hnull⟩ := ofJson_reads_flat_objects (.object tangledEntries)
  have hsorted : Entries.InOrder tangledEntries := by
    unfold Entries.InOrder
    decide +kernel
  have hrefused : ofJson (.object tangledEntries) = .error (.duplicateKey "team") := by decide +kernel
  exact ⟨hsorted, (horder _ rfl hsorted _).1 hrefused, (hnull [] " " _ rfl).symm.trans hrefused⟩

end PropertyBag

end Mailroom
