import Mathlib.Data.List.Pairwise
import Mailroom.Entries

/-! What is found in a list of entries in the order of their keys, and that nothing else makes up the
list. -/
namespace Mailroom.Entries

variable {α : Type} {es fs : List (String × α)} {k : String}

theorem get?_eq_none_of_forall_ne (h : ∀ e ∈ es, e.1 ≠ k) : get? k es = none := by
  induction es with
  | nil => rfl
  | cons e es ih =>
    have hne : k ≠ e.1 := (h e (by simp)).symm
    simp [get?, hne, ih fun f hf => h f (by simp [hf])]

theorem mem_of_get? {v : α} (h : get? k es = some v) : (k, v) ∈ es := by
  induction es with
  | nil => simp [get?] at h
  | cons e es ih =>
    obtain ⟨l, w⟩ := e
    by_cases hk : k = l
    · simp only [get?, hk, if_true, Option.some.injEq] at h
      simp [hk, h]
    · simp only [get?, hk, if_false] at h
      simp [ih h]

theorem InOrder.get?_of_mem (hes : InOrder es) {v : α} (h : (k, v) ∈ es) : get? k es = some v := by
  induction es with
  | nil => simp at h
  | cons e es ih =>
    obtain ⟨hlt, hes⟩ := List.pairwise_cons.1 hes
    rcases List.mem_cons.1 h with rfl | h
    · simp [get?]
    · have hne : k ≠ e.1 := (String.ne_of_lt (hlt (k, v) h)).symm
      simp [get?, hne, ih hes h]

/-- Values that are changed under their keys are found changed. -/
theorem get?_map {β : Type} (f : String → α → β) (k : String) (es : List (String × α)) :
    get? k (es.map fun (key, value) => (key, f key value)) = (get? k es).map (f k) := by
  induction es with
  | nil => rfl
  | cons e es ih =>
    obtain ⟨l, v⟩ := e
    by_cases hk : k = l
    · simp [get?, hk]
    · simpa [get?, hk] using ih

/-- A key before the first one is not found. -/
theorem InOrder.get?_eq_none {e : String × α} (h : InOrder (e :: es)) (hk : k < e.1) :
    get? k (e :: es) = none := by
  apply get?_eq_none_of_forall_ne
  intro f hf
  rcases List.mem_cons.1 hf with rfl | hf
  · exact (String.ne_of_lt hk).symm
  · have hlt : e.1 < f.1 := (List.pairwise_cons.1 h).1 f hf
    exact (String.ne_of_lt (String.lt_trans hk hlt)).symm

/-- Entries in order are the same if the same is found in them. -/
theorem InOrder.ext (hes : InOrder es) (hfs : InOrder fs) (h : ∀ k, get? k es = get? k fs) :
    es = fs := by
  induction es generalizing fs with
  | nil =>
    cases fs with
    | nil => rfl
    | cons f fs => simpa [get?] using h f.1
  | cons e es ih =>
    obtain ⟨k, v⟩ := e
    cases fs with
    | nil => simpa [get?] using h k
    | cons f fs =>
      obtain ⟨l, w⟩ := f
      -- The first keys are the same: the lesser one would be found in one list only.
      have hnotlt : ¬k < l := by
        intro hlt
        have hfound := h k
        rw [hfs.get?_eq_none hlt] at hfound
        simp [get?] at hfound
      have hnotgt : ¬l < k := by
        intro hlt
        have hfound := h l
        rw [hes.get?_eq_none hlt] at hfound
        simp [get?] at hfound
      obtain rfl : k = l := String.le_antisymm (String.not_lt.1 hnotgt) (String.not_lt.1 hnotlt)
      obtain rfl : v = w := by simpa [get?] using h k
      obtain ⟨hk, hes'⟩ := List.pairwise_cons.1 hes
      obtain ⟨hl, hfs'⟩ := List.pairwise_cons.1 hfs
      have htail : es = fs := by
        apply ih hes' hfs'
        intro j
        by_cases hj : j = k
        · subst hj
          rw [get?_eq_none_of_forall_ne fun e he => (String.ne_of_lt (hk e he)).symm,
            get?_eq_none_of_forall_ne fun e he => (String.ne_of_lt (hl e he)).symm]
        · simpa [get?, hj] using h j
      rw [htail]

/-- What holds of each key and those after it, in whichever order it is said, holds of any two keys. -/
theorem InOrder.pairwise_iff (hes : InOrder es) {R : String → String → Prop}
    (hsymm : ∀ k l, R k l → R l k) :
    es.Pairwise (fun e f => R e.1 f.1) ↔ ∀ e ∈ es, ∀ f ∈ es, e.1 ≠ f.1 → R e.1 f.1 := by
  constructor
  · intro h
    have hweak : es.Pairwise fun e f => e.1 ≠ f.1 → R e.1 f.1 := by
      refine h.imp ?_
      intro e f hR _
      exact hR
    have : Std.Symm fun e f : String × α => e.1 ≠ f.1 → R e.1 f.1 :=
      ⟨fun e f hef hne => hsymm _ _ (hef hne.symm)⟩
    have hall := hweak.forall_of_forall fun e _ hne => absurd rfl hne
    exact fun e he f hf => hall he hf
  · intro h
    refine hes.imp_of_mem fun he hf hlt => ?_
    exact h _ he _ hf (String.ne_of_lt hlt)

/-- The entries with lesser keys are those that come before. -/
theorem InOrder.filter_lt {before after : List (String × α)} {e : String × α}
    (h : InOrder (before ++ e :: after)) : (before ++ e :: after).filter (·.1 < e.1) = before := by
  obtain ⟨-, hrest, hbefore⟩ := List.pairwise_append.1 h
  have hlt : ∀ d ∈ before, d.1 < e.1 := fun d hd => hbefore d hd e (by simp)
  have hnotlt : ∀ d ∈ e :: after, ¬d.1 < e.1 := by
    refine List.forall_mem_cons.2 ⟨String.lt_irrefl _, fun d hd => ?_⟩
    exact String.lt_asymm ((List.pairwise_cons.1 hrest).1 d hd)
  rw [List.filter_append, List.filter_eq_self.2 (by simpa using hlt),
    List.filter_eq_nil_iff.2 (by simpa using hnotlt), List.append_nil]

/-- An entry whose key comes last is added at the end. -/
theorem insert_of_forall_lt (h : ∀ e ∈ es, e.1 < k) (v : α) : insert k v es = es ++ [(k, v)] := by
  induction es with
  | nil => rfl
  | cons e es ih =>
    have hlt : e.1 < k := h e (by simp)
    have hnotlt : ¬k < e.1 := String.lt_asymm hlt
    have hne : k ≠ e.1 := (String.ne_of_lt hlt).symm
    simp [insert, hnotlt, hne, ih fun f hf => h f (by simp [hf])]

end Mailroom.Entries
