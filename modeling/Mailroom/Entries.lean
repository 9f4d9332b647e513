/-! Lists of entries in the order of their keys. -/
namespace Mailroom.Entries

variable {α : Type}

def InOrder (es : List (String × α)) : Prop := es.Pairwise (·.1 < ·.1)

def insert (key : String) (value : α) : List (String × α) → List (String × α)
  | [] => [(key, value)]
  | (k, v) :: r =>
    if key < k then (key, value) :: (k, v) :: r
    else if key = k then (key, value) :: r
    else (k, v) :: insert key value r

def get? (key : String) : List (String × α) → Option α
  | [] => none
  | (k, v) :: r => if key = k then some v else get? key r

def erase (key : String) (es : List (String × α)) : List (String × α) :=
  es.filter fun (k, _) => k != key

theorem inOrder_nil : InOrder ([] : List (String × α)) := .nil

private theorem mem_insert {key : String} {value : α} {e : String × α} {es : List (String × α)}
    (h : e ∈ insert key value es) : e = (key, value) ∨ e ∈ es := by
  induction es with
  | nil => simpa [insert] using h
  | cons f r ih =>
    unfold insert at h
    split at h
    · simpa using h
    · split at h
      · simp only [List.mem_cons] at h ⊢
        exact h.imp_right .inr
      · simp only [List.mem_cons] at h ⊢
        rcases h with h | h
        · exact .inr (.inl h)
        · exact (ih h).imp_right .inr

/-- Setting a value keeps the order. -/
theorem inOrder_insert (key : String) (value : α) {es : List (String × α)} (h : InOrder es) :
    InOrder (insert key value es) := by
  induction es with
  | nil => simp [insert, InOrder]
  | cons f r ih =>
    have ⟨hf, hr⟩ := List.pairwise_cons.1 h
    unfold insert
    split
    · next hlt =>
      refine List.pairwise_cons.2 ⟨fun e he => ?_, h⟩
      rcases List.mem_cons.1 he with rfl | he
      · exact hlt
      · exact String.lt_trans hlt (hf e he)
    · next hge =>
      split
      · next heq => exact List.pairwise_cons.2 ⟨fun e he => heq ▸ hf e he, hr⟩
      · next hne =>
        refine List.pairwise_cons.2 ⟨fun e he => ?_, ih hr⟩
        rcases mem_insert he with rfl | he
        · exact Classical.byContradiction fun hlt =>
            hne (String.le_antisymm (String.not_lt.1 hlt) (String.not_lt.1 hge))
        · exact hf e he

/-- Leaving out a key keeps the order. -/
theorem inOrder_erase (key : String) {es : List (String × α)} (h : InOrder es) :
    InOrder (erase key es) :=
  h.filter _

@[simp] theorem get?_insert_self (key : String) (value : α) (es : List (String × α)) :
    get? key (insert key value es) = some value := by
  induction es with
  | nil => simp [insert, get?]
  | cons f r ih =>
    unfold insert
    split
    · simp [get?]
    · split
      · simp [get?]
      · next hne => simp [get?, hne, ih]

theorem get?_insert_of_ne {k key : String} (hne : k ≠ key) (value : α) (es : List (String × α)) :
    get? k (insert key value es) = get? k es := by
  induction es with
  | nil => simp [insert, get?, hne]
  | cons f r ih =>
    unfold insert
    split
    · simp [get?, hne]
    · split
      · next heq => subst heq; simp [get?, hne]
      · simp [get?, ih]

theorem erase_cons (key k : String) (v : α) (r : List (String × α)) :
    erase key ((k, v) :: r) = if k = key then erase key r else (k, v) :: erase key r := by
  by_cases h : k = key <;> simp [erase, h]

@[simp] theorem get?_erase_self (key : String) (es : List (String × α)) :
    get? key (erase key es) = none := by
  induction es with
  | nil => rfl
  | cons f r ih =>
    rw [erase_cons]
    split
    · exact ih
    · next h => simp [get?, ih, Ne.symm h]

theorem get?_erase_of_ne {k key : String} (hne : k ≠ key) (es : List (String × α)) :
    get? k (erase key es) = get? k es := by
  induction es with
  | nil => rfl
  | cons f r ih =>
    rw [erase_cons]
    split
    · next h => simp [get?, ih, h, hne]
    · simp [get?, ih]

end Mailroom.Entries
