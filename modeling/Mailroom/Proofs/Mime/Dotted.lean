import Mailroom.Proofs.Mime.Takers
import Mailroom.Proofs.Text.Cutting

/-! Atoms with points between them, and quoted texts: what is written is what is taken. -/
namespace Mailroom.Mime.MailboxList

/-- No atom goes on in front of the text. -/
def EndsAtom (cs : List Char) : Prop := ∀ c ∈ cs.head?, isAtomText c = false

def IsAtom (cs : List Char) : Prop := cs ≠ [] ∧ ∀ c ∈ cs, isAtomText c = true

def dotted (first : List Char) (others : List (List Char)) : List Char :=
  first ++ others.flatMap ('.' :: ·)

section
variable {a rest : List Char}

private theorem takeWhile_append_of_endsAtom (ha : ∀ c ∈ a, isAtomText c = true)
    (hr : EndsAtom rest) :
    (a ++ rest).takeWhile isAtomText = a ∧ (a ++ rest).dropWhile isAtomText = rest := by
  rw [List.takeWhile_append_of_pos ha, List.dropWhile_append_of_pos ha]
  cases rest with
  | nil => simp
  | cons c r =>
    have hc := hr c rfl
    simp [hc]

theorem endsAtom_dropWhile_append (hr : EndsAtom rest) :
    EndsAtom (a.dropWhile isAtomText ++ rest) := by
  have hnot := List.head?_dropWhile_not isAtomText a
  cases hd : a.dropWhile isAtomText with
  | nil => exact hr
  | cons c d =>
    rw [hd] at hnot
    intro x hx
    obtain rfl : c = x := by simpa using hx
    exact hnot

theorem atomText_append (ha : IsAtom a) (hr : EndsAtom rest) : atomText (a ++ rest) = some (a, rest) := by
  obtain ⟨htake, hdrop⟩ := takeWhile_append_of_endsAtom ha.2 hr
  unfold atomText
  rw [htake, hdrop]
  cases a with
  | nil => exact absurd rfl ha.1
  | cons c a => rfl

theorem atomText_eq_none (hr : EndsAtom rest) : atomText rest = none := by
  cases rest with
  | nil => rfl
  | cons c r =>
    have hc := hr c rfl
    simp [atomText, hc]

theorem spacing_of_head (h : ∀ c ∈ a.head?, isSpacing c = false) : spacing a = some ([], a) := by
  cases a with
  | nil => rfl
  | cons c a =>
    have hc := h c rfl
    simp [spacing, takeSpacing, hc]

theorem dotAtom_eq_none (hs : ∀ c ∈ rest.head?, isSpacing c = false) (hr : EndsAtom rest) :
    dotAtom rest = none := by
  have hspacing : spacing rest = some ([], rest) := spacing_of_head hs
  simp [dotAtom, both, hspacing, atomText_eq_none hr]

private theorem isSpacing_of_isAtomText {c : Char} (h : isAtomText c = true) :
    isSpacing c = false := by
  rw [Bool.eq_false_iff]
  intro hs
  simp only [isSpacing, Bool.or_eq_true, beq_iff_eq] at hs
  rcases hs with rfl | rfl
  · exact absurd h (by decide)
  · exact absurd h (by decide)

theorem IsAtom.spacing (ha : IsAtom a) : spacing (a ++ rest) = some ([], a ++ rest) := by
  cases a with
  | nil => exact absurd rfl ha.1
  | cons c a =>
    apply spacing_of_head
    intro d hd
    obtain rfl : c = d := by simpa using hd
    exact isSpacing_of_isAtomText (ha.2 c (by simp))

def TakesAtoms (t : Taker) : Prop :=
  ∀ ⦃a rest : List Char⦄, IsAtom a → EndsAtom rest → t (a ++ rest) = some (a, rest)

private theorem takesAtoms_atomText : TakesAtoms atomText := fun _ _ ha hr => atomText_append ha hr

private theorem takesAtoms_atom : TakesAtoms atom := by
  intro a rest ha hr
  simp [atom, both, ha.spacing, atomText_append ha hr]

theorem quotedString_eq_none (h : ∀ c ∈ a.head?, c ≠ '"') : quotedString a = none := by
  unfold quotedString
  split
  · exact absurd rfl (h '"' rfl)
  · rfl

theorem IsAtom.quotedString (ha : IsAtom a) : quotedString (a ++ rest) = none := by
  cases a with
  | nil => exact absurd rfl ha.1
  | cons c a =>
    apply quotedString_eq_none
    intro d hd
    obtain rfl : c = d := by simpa using hd
    rintro rfl
    exact absurd (ha.2 '"' (by simp)) (by decide)

private theorem takesAtoms_word : TakesAtoms word := by
  intro a rest ha hr
  simp [word, either, ha.quotedString, takesAtoms_atom ha hr]

end

/-! ### Atoms between points -/

section
variable {t : Taker} {first rest : List Char} {others : List (List Char)}

private theorem endsAtom_flatMap (others : List (List Char)) (hr : EndsAtom rest) :
    EndsAtom (others.flatMap ('.' :: ·) ++ rest) := by
  cases others with
  | nil => exact hr
  | cons a others =>
    intro c hc
    obtain rfl : '.' = c := by simpa using hc
    decide

theorem char_eq_none {c : Char} (h : ∀ d ∈ rest.head?, d ≠ c) : char c rest = none := by
  cases rest with
  | nil => rfl
  | cons d r => simp [char, Ne.symm (h d rfl)]

private theorem manyFrom_points (ht : TakesAtoms t) (ho : ∀ a ∈ others, IsAtom a)
    (hr : EndsAtom rest) (hp : ∀ c ∈ rest.head?, c ≠ '.') {fuel : Nat} (hf : others.length ≤ fuel) :
    manyFrom (both (char '.') t) fuel (others.flatMap ('.' :: ·) ++ rest) =
      (others.flatMap ('.' :: ·), rest) := by
  induction others generalizing fuel with
  | nil =>
    cases fuel with
    | zero => rfl
    | succ fuel => simp [manyFrom, both, char_eq_none hp]
  | cons a others ih =>
    cases fuel with
    | zero => simp at hf
    | succ fuel =>
      have ha := ho a (by simp)
      have ih := ih (fun b hb => ho b (by simp [hb])) (Nat.le_of_succ_le_succ hf)
      simp [manyFrom, both, char, ht ha (endsAtom_flatMap others hr), ih]

private theorem many_points (others : List (List Char)) (ht : TakesAtoms t)
    (ho : ∀ a ∈ others, IsAtom a) (hr : EndsAtom rest) (hp : ∀ c ∈ rest.head?, c ≠ '.') :
    many (both (char '.') t) (others.flatMap ('.' :: ·) ++ rest) =
      some (others.flatMap ('.' :: ·), rest) := by
  have hlen : others.length ≤ (others.flatMap ('.' :: ·) ++ rest).length := by
    clear ho
    induction others with
    | nil => simp
    | cons a others ih =>
      simp only [List.flatMap_cons, List.length_append, List.length_cons] at ih ⊢
      omega
  rw [many, manyFrom_points ht ho hr hp hlen]

private theorem dotAtom_cons {a : List Char} (hf : IsAtom first) (ho : ∀ b ∈ a :: others, IsAtom b)
    (hr : EndsAtom rest) (hp : ∀ c ∈ rest.head?, c ≠ '.') :
    dotAtom (dotted first (a :: others) ++ rest) = some (dotted first (a :: others), rest) := by
  have hmany := many_points others takesAtoms_atomText
    (fun b hb => ho b (by simp [hb])) hr hp
  have ha := atomText_append (ho a (by simp)) (endsAtom_flatMap others hr)
  have hrest := endsAtom_flatMap (a :: others) hr
  simp only [dotted, List.append_assoc]
  simp only [dotAtom, both, Option.bind_eq_bind, hf.spacing, Option.bind_some,
    atomText_append hf hrest]
  simp [char, ha, hmany]

private theorem dotAtom_singleton (hf : IsAtom first) (hr : EndsAtom rest)
    (hp : ∀ c ∈ rest.head?, c ≠ '.') : dotAtom (first ++ rest) = none := by
  simp [dotAtom, both, hf.spacing, atomText_append hf hr, char_eq_none hp]

/-- Atoms with points between them are taken as they are, whatever ends them. -/
theorem domain_dotted (hf : IsAtom first) (ho : ∀ a ∈ others, IsAtom a) (hr : EndsAtom rest)
    (hp : ∀ c ∈ rest.head?, c ≠ '.') :
    domain (dotted first others ++ rest) = some (dotted first others, rest) := by
  cases others with
  | nil =>
    have hmany := many_points [] takesAtoms_atom (by simp) hr hp
    simp only [List.flatMap_nil, List.nil_append] at hmany
    simp [domain, either, dotted, dotAtom_singleton hf hr hp, both, takesAtoms_atom hf hr, hmany]
  | cons a others => simp [domain, either, dotAtom_cons hf ho hr hp]

theorem localPart_dotted (hf : IsAtom first) (ho : ∀ a ∈ others, IsAtom a) (hr : EndsAtom rest)
    (hp : ∀ c ∈ rest.head?, c ≠ '.') :
    localPart (dotted first others ++ rest) = some (dotted first others, rest) := by
  cases others with
  | nil =>
    have hmany := many_points [] takesAtoms_word (by simp) hr hp
    simp only [List.flatMap_nil, List.nil_append] at hmany
    simp [localPart, either, dotted, dotAtom_singleton hf hr hp, hf.quotedString, both,
      takesAtoms_word hf hr, hmany]
  | cons a others => simp [localPart, either, dotAtom_cons hf ho hr hp]

end

end Mailroom.Mime.MailboxList
