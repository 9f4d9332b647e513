/-! Computations that may fail, and what is known of one that did not. -/
namespace Mailroom

variable {ε ε' α β : Type}

theorem bind_eq_ok_iff {x : Except ε α} {f : α → Except ε β} {b : β} :
    (x >>= f) = .ok b ↔ ∃ a, x = .ok a ∧ f a = .ok b := by
  cases x with
  | error e => simp [bind, Except.bind]
  | ok a => simp [bind, Except.bind]

theorem bind_eq_error_iff {x : Except ε α} {f : α → Except ε β} {e : ε} :
    (x >>= f) = .error e ↔ x = .error e ∨ ∃ a, x = .ok a ∧ f a = .error e := by
  cases x with
  | error e => simp [bind, Except.bind]
  | ok a => simp [bind, Except.bind]

theorem mapError_eq_error_iff {x : Except ε α} {f : ε → ε'} {e : ε'} :
    x.mapError f = .error e ↔ ∃ e', x = .error e' ∧ f e' = e := by
  cases x with
  | error e =>
    have herror : (Except.error e : Except ε α).mapError f = .error (f e) := rfl
    simp [herror]
  | ok b =>
    have hok : (Except.ok b : Except ε α).mapError f = .ok b := rfl
    simp [hok]

theorem mapError_eq_ok_iff {x : Except ε α} {f : ε → ε'} {a : α} :
    x.mapError f = .ok a ↔ x = .ok a := by
  cases x with
  | error e =>
    have herror : (Except.error e : Except ε α).mapError f = .error (f e) := rfl
    simp [herror]
  | ok b =>
    have hok : (Except.ok b : Except ε α).mapError f = .ok b := rfl
    simp [hok]

theorem map_eq_ok_iff {x : Except ε α} {f : α → β} {b : β} :
    x.map f = .ok b ↔ ∃ a, x = .ok a ∧ f a = b := by
  cases x with
  | error e =>
    have herror : (Except.error e : Except ε α).map f = .error e := rfl
    simp [herror]
  | ok a =>
    have hok : (Except.ok a : Except ε α).map f = .ok (f a) := rfl
    simp [hok]

theorem mapError_inj {f : ε → ε'} (hf : ∀ e e', f e = f e' → e = e') {x y : Except ε α} :
    x.mapError f = y.mapError f ↔ x = y := by
  constructor
  · intro h
    cases hy : y.mapError f with
    | ok a => rw [mapError_eq_ok_iff.1 hy, mapError_eq_ok_iff.1 (h.trans hy)]
    | error e =>
      obtain ⟨d, hx, hd⟩ := mapError_eq_error_iff.1 (h.trans hy)
      obtain ⟨d', hy, hd'⟩ := mapError_eq_error_iff.1 hy
      rw [hx, hy, hf d d' (hd.trans hd'.symm)]
  · rintro rfl
    rfl

theorem toOption_eq_some_iff {x : Except ε α} {a : α} : x.toOption = some a ↔ x = .ok a := by
  cases x with
  | error e => simp [Except.toOption]
  | ok b => simp [Except.toOption]

theorem pure_eq_ok_iff {a b : α} : (pure a : Except ε α) = .ok b ↔ a = b := by
  simp [pure, Except.pure]

theorem exists_eq_ok_of_isOk {x : Except ε α} (h : x.isOk = true) : ∃ a, x = .ok a := by
  cases x with
  | error e => cases h
  | ok a => exact ⟨a, rfl⟩

/-- What each step of a loop keeps is kept where it ends. -/
theorem invariant_of_foldlM {σ : Type} {P : σ → Prop} {f : σ → α → Except ε σ} {xs : List α}
    {s t : σ} (hstep : ∀ s x t, P s → f s x = .ok t → P t) (hs : P s) (h : xs.foldlM f s = .ok t) :
    P t := by
  induction xs generalizing s with
  | nil => exact pure_eq_ok_iff.1 h ▸ hs
  | cons x xs ih =>
    rw [List.foldlM_cons, bind_eq_ok_iff] at h
    obtain ⟨u, hu, h⟩ := h
    exact ih (hstep s x u hs hu) h

/-- A list is read exactly if each of its elements is, in order. -/
theorem mapM_eq_ok_iff {f : α → Except ε β} {xs : List α} {ys : List β} :
    xs.mapM f = .ok ys ↔ xs.map f = ys.map .ok := by
  induction xs generalizing ys with
  | nil =>
    rw [List.mapM_nil, pure_eq_ok_iff]
    cases ys <;> simp
  | cons x xs ih =>
    simp only [List.mapM_cons, bind_eq_ok_iff, pure_eq_ok_iff, ih, List.map_cons]
    constructor
    · rintro ⟨y, hy, zs, hzs, rfl⟩
      rw [hy, hzs, List.map_cons]
    · intro h
      obtain ⟨y, zs, rfl, hy, hzs⟩ := List.map_eq_cons_iff.1 h.symm
      exact ⟨y, hy.symm, zs, hzs.symm, rfl⟩

/-- A list is refused for the first of its elements that is. -/
theorem mapM_eq_error_iff {f : α → Except ε β} {xs : List α} {e : ε} :
    xs.mapM f = .error e ↔
      ∃ before x after, xs = before ++ x :: after ∧ (∀ y ∈ before, ∃ z, f y = .ok z) ∧
        f x = .error e := by
  induction xs with
  | nil => simp [pure, Except.pure]
  | cons x xs ih =>
    rw [List.mapM_cons, bind_eq_error_iff]
    constructor
    · rintro (hx | ⟨z, hz, h⟩)
      · exact ⟨[], x, xs, rfl, by simp, hx⟩
      · rcases bind_eq_error_iff.1 h with h | ⟨zs, -, h⟩
        · obtain ⟨before, y, after, rfl, hbefore, hy⟩ := ih.1 h
          exact ⟨x :: before, y, after, rfl, List.forall_mem_cons.2 ⟨⟨z, hz⟩, hbefore⟩, hy⟩
        · cases h
    · rintro ⟨before, y, after, hxs, hbefore, hy⟩
      cases before with
      | nil =>
        obtain ⟨rfl, rfl⟩ := List.cons.inj hxs
        exact .inl hy
      | cons b before =>
        obtain ⟨rfl, rfl⟩ := List.cons.inj hxs
        obtain ⟨⟨z, hz⟩, hbefore⟩ := List.forall_mem_cons.1 hbefore
        exact .inr ⟨z, hz, bind_eq_error_iff.2 (.inl (ih.2 ⟨before, y, after, rfl, hbefore, hy⟩))⟩

/-- All failures of a computation satisfy `P`. -/
def FailsOnly (P : ε → Prop) (x : Except ε α) : Prop := ∀ e, x = .error e → P e

section
variable {P : ε → Prop} {x : Except ε α}

theorem failsOnly_ok (a : α) : FailsOnly P (.ok a : Except ε α) := fun _ h => nomatch h

theorem failsOnly_error {e : ε} (h : P e) : FailsOnly P (.error e : Except ε α) := by
  intro e' he
  cases he
  exact h

theorem FailsOnly.mono {Q : ε → Prop} (h : FailsOnly P x) (hPQ : ∀ e, P e → Q e) : FailsOnly Q x :=
  fun e he => hPQ e (h e he)

theorem FailsOnly.bind {f : α → Except ε β} (hx : FailsOnly P x) (hf : ∀ a, FailsOnly P (f a)) :
    FailsOnly P (x >>= f) := by
  intro e he
  rcases bind_eq_error_iff.1 he with h | ⟨a, -, h⟩
  · exact hx e h
  · exact hf a e h

theorem failsOnly_mapError {f : ε' → ε} {x : Except ε' α} (h : ∀ e, P (f e)) :
    FailsOnly P (x.mapError f) := by
  intro e he
  obtain ⟨e', -, rfl⟩ := mapError_eq_error_iff.1 he
  exact h e'

theorem failsOnly_foldlM {σ : Type} {f : σ → α → Except ε σ} (hf : ∀ s a, FailsOnly P (f s a))
    (s : σ) (xs : List α) : FailsOnly P (xs.foldlM f s) := by
  induction xs generalizing s with
  | nil => exact failsOnly_ok s
  | cons a xs ih =>
    rw [List.foldlM_cons]
    exact (hf s a).bind ih

end

end Mailroom
