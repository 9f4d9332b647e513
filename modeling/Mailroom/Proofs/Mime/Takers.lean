import Mailroom.Mime.MailboxList

/-! What the readers of a header take: where they stop, and what they hand on. -/
namespace Mailroom.Mime.MailboxList

/-! ### What is passed -/

/-- What the taker passes lies in front of the rest, and each of its characters satisfies `p`. -/
def Passes (p : Char → Prop) (t : Taker) : Prop :=
  ∀ ⦃cs x rest : List Char⦄, t cs = some (x, rest) → ∃ pre, cs = pre ++ rest ∧ ∀ c ∈ pre, p c

section
variable {p : Char → Prop} {a b : Taker}

theorem Passes.either (ha : Passes p a) (hb : Passes p b) : Passes p (either a b) := by
  intro cs x rest h
  rcases Option.or_eq_some_iff.1 h with h | ⟨_, h⟩
  · exact ha h
  · exact hb h

theorem Passes.both (ha : Passes p a) (hb : Passes p b) : Passes p (both a b) := by
  intro cs x rest h
  simp only [MailboxList.both, Option.bind_eq_bind, Option.bind_eq_some_iff, Prod.exists,
    Option.pure_def, Option.some.injEq, Prod.mk.injEq] at h
  obtain ⟨y, mid, hy, z, rest', hz, rfl, rfl⟩ := h
  obtain ⟨pre, rfl, hpre⟩ := ha hy
  obtain ⟨post, rfl, hpost⟩ := hb hz
  refine ⟨pre ++ post, by simp, ?_⟩
  intro c hc
  rcases List.mem_append.1 hc with hc | hc
  · exact hpre c hc
  · exact hpost c hc

private theorem passes_manyFrom (ha : Passes p a) (fuel : Nat) (cs : List Char) :
    ∃ pre, cs = pre ++ (manyFrom a fuel cs).2 ∧ ∀ c ∈ pre, p c := by
  induction fuel generalizing cs with
  | zero => exact ⟨[], by simp [manyFrom], by simp⟩
  | succ fuel ih =>
    unfold manyFrom
    split
    · exact ⟨[], by simp, by simp⟩
    · next x rest hx =>
      obtain ⟨pre, rfl, hpre⟩ := ha hx
      obtain ⟨post, hpost, hall⟩ := ih rest
      refine ⟨pre ++ post, by simp [← hpost], ?_⟩
      intro c hc
      rcases List.mem_append.1 hc with hc | hc
      · exact hpre c hc
      · exact hall c hc

theorem Passes.many (ha : Passes p a) : Passes p (many a) := by
  intro cs x rest h
  obtain ⟨pre, hpre, hall⟩ := passes_manyFrom ha cs.length cs
  simp only [MailboxList.many, Option.some.injEq] at h
  rw [h] at hpre
  exact ⟨pre, hpre, hall⟩

theorem passes_char {c : Char} (hc : p c) : Passes p (char c) := by
  intro cs x rest h
  cases cs with
  | nil => simp [char] at h
  | cons d r =>
    simp only [char] at h
    split at h
    · next he =>
      cases h
      exact ⟨[d], rfl, by simpa [← he] using hc⟩
    · simp at h

theorem passes_atomText (hp : ∀ c, isAtomText c = true → p c) : Passes p atomText := by
  intro cs x rest h
  unfold atomText at h
  split at h
  · simp at h
  · cases h
    refine ⟨cs.takeWhile isAtomText, (List.takeWhile_append_dropWhile ..).symm, ?_⟩
    intro c hc
    exact hp c (List.all_eq_true.1 (List.all_takeWhile ..) c hc)

theorem passes_spacing (hp : ∀ c, isSpacing c = true → p c) : Passes p spacing := by
  intro cs x rest h
  simp only [spacing, takeSpacing, Option.some.injEq, Prod.mk.injEq] at h
  obtain ⟨-, rfl⟩ := h
  refine ⟨cs.takeWhile isSpacing, (List.takeWhile_append_dropWhile ..).symm, ?_⟩
  intro c hc
  exact hp c (List.all_eq_true.1 (List.all_takeWhile ..) c hc)

end

/-- A domain is passed over atoms, points and spacing only. -/
theorem passes_domain :
    Passes (fun c => isAtomText c = true ∨ c = '.' ∨ isSpacing c = true) domain := by
  have htext : Passes (fun c => isAtomText c = true ∨ c = '.' ∨ isSpacing c = true) atomText :=
    passes_atomText fun c hc => .inl hc
  have hspacing := passes_spacing (p := fun c => isAtomText c = true ∨ c = '.' ∨ isSpacing c = true)
    fun c hc => .inr (.inr hc)
  have hpoint : Passes (fun c => isAtomText c = true ∨ c = '.' ∨ isSpacing c = true) (char '.') :=
    passes_char (.inr (.inl rfl))
  have hatom := hspacing.both htext
  exact (hspacing.both (htext.both ((hpoint.both htext).both (hpoint.both htext).many))).either
    (hatom.both (hpoint.both hatom).many)

private theorem passes_quotedContent : Passes (fun _ => True) quotedContent := by
  intro cs x rest h
  unfold quotedContent at h
  split at h
  · next c r =>
    split at h
    · cases h
      exact ⟨['\\', c], by simp, by simp⟩
    · simp at h
  · next c r _ =>
    split at h
    · cases h
      exact ⟨[c], by simp, by simp⟩
    · simp at h
  · simp at h

private theorem passes_quotedString : Passes (fun _ => True) quotedString := by
  intro cs x rest h
  unfold quotedString at h
  split at h
  · next r =>
    simp only [Option.bind_eq_bind, Option.bind_eq_some_iff, Prod.exists] at h
    obtain ⟨y, mid, hy, h⟩ := h
    have hcontent := ((passes_spacing fun _ _ => trivial).both passes_quotedContent).many hy
    obtain ⟨pre, rfl, -⟩ := hcontent
    split at h
    · next r hmid =>
      cases h
      refine ⟨'"' :: (pre ++ mid.takeWhile Text.isBlank ++ ['"']), ?_, by simp⟩
      have hsplit := List.takeWhile_append_dropWhile (p := Text.isBlank) (l := mid)
      rw [hmid] at hsplit
      simpa using hsplit.symm
    · simp at h
  · simp at h

private theorem passes_word : Passes (fun _ => True) word :=
  passes_quotedString.either ((passes_spacing fun _ _ => trivial).both
    (passes_atomText fun _ _ => trivial))

theorem passes_localPart : Passes (fun _ => True) localPart := by
  have htext : Passes (fun _ => True) atomText := passes_atomText fun _ _ => trivial
  have hpoint : Passes (fun _ => True) (char '.') := passes_char trivial
  have hdots := (passes_spacing fun _ _ => trivial).both
    (htext.both ((hpoint.both htext).both (hpoint.both htext).many))
  exact hdots.either (passes_quotedString.either (passes_word.both (hpoint.both passes_word).many))

theorem passes_phrase : Passes (fun _ => True) phrase :=
  passes_word.both (passes_word.either (passes_char trivial)).many

/-- An address needs its sign. -/
theorem address_eq_none {cs : List Char} (h : '@' ∉ cs) : address cs = none := by
  rw [address, Option.bind_eq_bind, Option.bind_eq_none_iff]
  rintro ⟨name, rest⟩ hname
  obtain ⟨pre, rfl, -⟩ := passes_localPart hname
  cases rest with
  | nil => rfl
  | cons c r =>
    have hc : '@' ≠ c := by
      rintro rfl
      simp at h
    simp [char, hc]

/-- An address between angle brackets needs the first of them. -/
theorem angleAddress_eq_none {cs : List Char} (h : '<' ∉ cs) : angleAddress cs = none := by
  have hmem : '<' ∉ cs.dropWhile Text.isBlank := fun hc => h ((List.dropWhile_sublist _).subset hc)
  rw [angleAddress, Option.bind_eq_bind, Option.bind_eq_none_iff]
  rintro ⟨x, rest⟩ hx
  cases hd : cs.dropWhile Text.isBlank with
  | nil => simp [hd, char] at hx
  | cons c r =>
    have hc : '<' ≠ c := by
      rintro rfl
      simp [hd] at hmem
    simp [hd, char, hc] at hx

/-- A text without angle brackets is read as a bare address. -/
theorem mailbox_eq_address {cs : List Char} (h : '<' ∉ cs) : mailbox cs = address cs := by
  cases hphrase : phrase cs with
  | none => simp only [mailbox, hphrase, angleAddress_eq_none h, Option.none_or]
  | some taken =>
    obtain ⟨pre, rfl, -⟩ := passes_phrase hphrase
    have hrest : '<' ∉ taken.2 := fun hc => h (List.mem_append_right pre hc)
    simp only [mailbox, hphrase, angleAddress_eq_none hrest, Option.none_or]

end Mailroom.Mime.MailboxList
