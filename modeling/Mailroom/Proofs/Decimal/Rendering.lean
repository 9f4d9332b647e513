import Mailroom.Json.Basic
import Mailroom.Proofs.Decimal.Unsigned

/-! The texts of JSON numbers: one that is whole and not negative has a numeral for its text, and no other
number has. -/
namespace Mailroom.Decimal

variable {s : String} {cs : List Char} {c : Char} {m n : Nat}

/-! ### Numerals -/

theorem toLower_of_isDigit (h : c.isDigit = true) : c.toLower = c := by
  have hdigit := Char.isDigit_iff_toNat.1 h
  have hupper : ¬(c.val ≥ 'A'.val ∧ c.val ≤ 'Z'.val) := by
    rintro ⟨hletter, -⟩
    have hle : 'A'.toNat ≤ c.toNat := UInt32.le_iff_toNat_le.1 hletter
    simp only [Char.reduceToNat] at hdigit hle
    omega
  exact dif_neg hupper

private theorem IsNumeral.isDigit_or_eq_plus (h : IsNumeral cs n) (hc : c ∈ cs) :
    c.isDigit = true ∨ c = '+' := by
  obtain ⟨digits, hcs, -, hdigits, -⟩ := h
  rcases hcs with rfl | rfl
  · exact .inl (hdigits c hc)
  · rcases List.mem_cons.1 hc with rfl | hc
    · exact .inr rfl
    · exact .inl (hdigits c hc)

/-- A text with a character that no numeral has and no trimming removes is no numeral but for blanks. -/
theorem not_isNumeral_trim (hc : c ∈ s.toList) (hblank : Text.isBlank c = false) (hdigit : c.isDigit = false)
    (hplus : c ≠ '+') : ¬IsNumeral (Text.trim s).toList n := by
  intro h
  rw [Text.toList_trim] at h
  rcases h.isDigit_or_eq_plus (Text.mem_strip hc hblank) with hc | rfl
  · cases hdigit.symm.trans hc
  · exact hplus rfl

/-! ### Numbers -/

def IsMarked (cs : List Char) : Prop :=
  '.' ∈ cs ∨ 'e' ∈ cs ∧ ('+' ∈ cs ∨ '-' ∈ cs)

theorem IsMarked.cons (h : IsMarked cs) (c : Char) : IsMarked (c :: cs) :=
  h.imp (List.mem_cons_of_mem c) fun ⟨he, hsign⟩ =>
    ⟨List.mem_cons_of_mem c he, hsign.imp (List.mem_cons_of_mem c) (List.mem_cons_of_mem c)⟩

private theorem isMarked_exponent (head digits : List Char) (below : Prop) [Decidable below] :
    IsMarked (head ++ 'e' :: (if below then '-' else '+') :: digits) := by
  refine .inr ⟨by simp, ?_⟩
  split
  · exact .inr (by simp)
  · exact .inl (by simp)

/-- No double is written with digits alone. -/
theorem isMarked_render (x : Binary64) : IsMarked x.render.toList := by
  unfold Binary64.render
  obtain ⟨digits, point⟩ := x.shortest
  dsimp only
  rw [String.toList_ofList]
  have hsign {cs : List Char} (h : IsMarked cs) : IsMarked (if x.negative then '-' :: cs else cs) := by
    split
    · exact h.cons '-'
    · exact h
  apply hsign
  split
  · -- a whole number ends in a point and a zero
    split <;> simp [IsMarked]
  · split
    · simp [IsMarked]
    · exact isMarked_exponent _ _ _

theorem mem_render_negSucc (k : Nat) : '-' ∈ (JsonNumber.whole (.negSucc k)).render.toList := by
  simp [JsonNumber.render, toString, Int.repr]

/-- No number is written with blanks alone. -/
theorem trim_render_ne_empty (x : JsonNumber) : Text.trim x.render ≠ "" := by
  have hne {c : Char} (hc : c ∈ x.render.toList) (hblank : Text.isBlank c = false) :
      Text.trim x.render ≠ "" := by
    intro h
    cases hblank.symm.trans (List.all_eq_true.1 (Text.trim_eq_empty_iff.1 h) c hc)
  cases x with
  | whole k =>
    cases k with
    | ofNat k => exact (trim_toString k).trans_ne (toString_ne_empty k)
    | negSucc k => exact hne (mem_render_negSucc k) (by decide)
  | double x =>
    rcases isMarked_render x with hpoint | ⟨he, -⟩
    · exact hne hpoint (by decide)
    · exact hne he (by decide)

/-- The numbers whose text is a numeral are those that are whole and not negative. -/
theorem isNumeral_trim_render_iff {x : JsonNumber} :
    IsNumeral (Text.trim x.render).toList n ↔ x = .whole n := by
  cases x with
  | whole k =>
    cases k with
    | ofNat k =>
      have hrender : (JsonNumber.whole (.ofNat k)).render = toString k := rfl
      rw [hrender, trim_toString, isNumeral_toString_iff, JsonNumber.whole.injEq, Int.ofNat_eq_natCast,
        Int.natCast_inj, eq_comm]
    | negSucc k =>
      have hminus := mem_render_negSucc k
      refine iff_of_false (not_isNumeral_trim hminus (by decide) (by decide) (by decide)) ?_
      simp
  | double x =>
    refine iff_of_false ?_ (by simp)
    rcases isMarked_render x with hpoint | ⟨he, -⟩
    · exact not_isNumeral_trim hpoint (by decide) (by decide) (by decide)
    · exact not_isNumeral_trim he (by decide) (by decide) (by decide)

end Mailroom.Decimal
