import Mailroom.Decimal.Unsigned
import Mailroom.Proofs.Text.Trimming

/-! Numbers that are written in decimal and read back. -/
namespace Mailroom.Decimal

private theorem toList_toString (n : Nat) : (toString n).toList = Nat.toDigits 10 n := by
  simp [toString, Nat.repr]

private theorem isDigit_of_mem_toDigits {n : Nat} {c : Char} (h : c ∈ Nat.toDigits 10 n) :
    c.isDigit = true :=
  Nat.isDigit_of_mem_toDigits (by decide) (by decide) h

theorem isDigit_of_mem_toString {c : Char} {n : Nat} (h : c ∈ (toString n).toList) : c.isDigit = true := by
  rw [toList_toString] at h
  exact isDigit_of_mem_toDigits h

theorem toString_ne_empty (n : Nat) : toString n ≠ "" := by
  intro h
  have hdigits := congrArg String.toList h
  rw [toList_toString] at hdigits
  have hpos := Nat.length_toDigits_pos (b := 10) (n := n)
  simp [hdigits] at hpos

private theorem valueOf_toDigits (n : Nat) : valueOf (Nat.toDigits 10 n) = n := by
  have h := Nat.ofDigitChars_ten_toDigits (n := n)
  rwa [Nat.ofDigitChars_eq_foldl] at h

/-- A number that was written is read again, if it is not above the limit. -/
theorem readUnsigned?_toString (limit n : Nat) :
    readUnsigned? limit (toString n).toList = if n ≤ limit then some n else none := by
  rw [toList_toString]
  have hall : (Nat.toDigits 10 n).all Char.isDigit = true :=
    List.all_eq_true.2 fun _ => isDigit_of_mem_toDigits
  have hvalue := valueOf_toDigits n
  have hpos := Nat.length_toDigits_pos (b := 10) (n := n)
  cases hd : Nat.toDigits 10 n with
  | nil => simp [hd] at hpos
  | cons c r =>
    rw [hd] at hall hvalue
    have hplus : c ≠ '+' := by
      rintro rfl
      simp at hall
    unfold readUnsigned?
    split
    · next he =>
      cases he
      exact absurd rfl hplus
    · simp [hall, hvalue]

/-- A number that is read is not above the limit. -/
theorem le_of_readUnsigned? {limit n : Nat} {cs : List Char} (h : readUnsigned? limit cs = some n) :
    n ≤ limit := by
  simp only [readUnsigned?, Option.ite_none_left_eq_some, Option.ite_none_right_eq_some,
    Option.some.injEq] at h
  obtain ⟨-, hle, rfl⟩ := h
  exact hle

/-- The text is a number in decimal: one digit or more, with or without a plus sign in front. -/
def IsNumeral (cs : List Char) (n : Nat) : Prop :=
  ∃ digits, (cs = digits ∨ cs = '+' :: digits) ∧ digits ≠ [] ∧ (∀ c ∈ digits, c.isDigit = true) ∧
    valueOf digits = n

theorem IsNumeral.ne_nil {n : Nat} {cs : List Char} (h : IsNumeral cs n) : cs ≠ [] := by
  obtain ⟨digits, hcs, hne, -⟩ := h
  rcases hcs with rfl | rfl
  · exact hne
  · exact List.cons_ne_nil _ _

/-- A numeral is read if its number is not above the limit. -/
theorem IsNumeral.readUnsigned?_eq {limit n : Nat} {cs : List Char} (h : IsNumeral cs n)
    (hn : n ≤ limit) : readUnsigned? limit cs = some n := by
  obtain ⟨digits, hcs, hne, hdigits, rfl⟩ := h
  have hread : ¬(digits.isEmpty || !digits.all Char.isDigit) = true := by
    simpa [hne] using hdigits
  rcases hcs with rfl | rfl
  · unfold readUnsigned?
    split
    · -- a plus sign is no digit
      exact absurd (hdigits '+' (by simp)) (by decide)
    · simp only [if_neg hread, if_pos hn]
  · simp only [readUnsigned?, if_neg hread, if_pos hn]

/-- What is read is a numeral. -/
theorem isNumeral_of_readUnsigned? {limit n : Nat} {cs : List Char}
    (h : readUnsigned? limit cs = some n) : IsNumeral cs n := by
  unfold readUnsigned? at h
  split at h
  · next r =>
    simp only [Option.ite_none_left_eq_some, Option.ite_none_right_eq_some, Option.some.injEq] at h
    obtain ⟨hread, -, hn⟩ := h
    have ⟨hne, hdigits⟩ : r ≠ [] ∧ ∀ c ∈ r, c.isDigit = true := by simpa using hread
    exact ⟨r, .inr rfl, hne, hdigits, hn⟩
  · simp only [Option.ite_none_left_eq_some, Option.ite_none_right_eq_some, Option.some.injEq] at h
    obtain ⟨hread, -, hn⟩ := h
    have ⟨hne, hdigits⟩ : cs ≠ [] ∧ ∀ c ∈ cs, c.isDigit = true := by simpa using hread
    exact ⟨cs, .inl rfl, hne, hdigits, hn⟩

theorem readUnsigned?_eq_some_iff {limit n : Nat} {cs : List Char} :
    readUnsigned? limit cs = some n ↔ IsNumeral cs n ∧ n ≤ limit := by
  constructor
  · intro h
    exact ⟨isNumeral_of_readUnsigned? h, le_of_readUnsigned? h⟩
  · rintro ⟨h, hn⟩
    exact h.readUnsigned?_eq hn

theorem IsNumeral.unique {m n : Nat} {cs : List Char} (hm : IsNumeral cs m) (hn : IsNumeral cs n) : m = n := by
  have hread := (hm.readUnsigned?_eq (Nat.le_max_left m n)).symm.trans
    (hn.readUnsigned?_eq (Nat.le_max_right m n))
  exact Option.some.inj hread

theorem isNumeral_toString (n : Nat) : IsNumeral (toString n).toList n := by
  have hread : readUnsigned? n (toString n).toList = some n := by
    rw [readUnsigned?_toString, if_pos (Nat.le_refl n)]
  exact isNumeral_of_readUnsigned? hread

theorem isNumeral_toString_iff {m n : Nat} : IsNumeral (toString n).toList m ↔ m = n := by
  constructor
  · exact fun h => h.unique (isNumeral_toString n)
  · rintro rfl
    exact isNumeral_toString m

/-- No decimal number has blanks around it. -/
theorem trim_toString (n : Nat) : Text.trim (toString n) = toString n := by
  apply Text.trim_of_forall
  intro c hc
  have hdigit := Char.isDigit_iff_toNat.1 (isDigit_of_mem_toString hc)
  simp only [Char.reduceToNat] at hdigit
  simp only [Text.isBlank, Bool.or_eq_false_iff, Bool.and_eq_false_iff, decide_eq_false_iff_not,
    beq_eq_false_iff_ne]
  omega

theorem isProper_toString (n : Nat) : Text.IsProper (toString n) :=
  ⟨trim_toString n, toString_ne_empty n⟩

end Mailroom.Decimal
