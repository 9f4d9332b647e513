import Mailroom.Proofs.Address.WellFormed
import Mailroom.Proofs.Mime.QuotedText

/-! Addresses that are written into a header and read back from it. -/
namespace Mailroom

open Mime Mime.MailboxList Text

namespace Address

def hasPlainDomain (a : Address) : Bool := a.domain.toList.all fun c => isAtomText c || c == '.'

/-- The part before the sign as a reader of headers takes it, without quotation marks. -/
def rawLocalPart (a : Address) : List Char :=
  match betweenQuotes? a.localPart.toList with
  | some inner => unescape inner
  | none => a.localPart.toList

/-- The address that a header gives back for one that is written into it, if it gives one back. -/
def reread? (a : Address) : Option Address :=
  if a.hasPlainDomain && isLocalPart a.rawLocalPart then
    some { a with localPart := .ofList a.rawLocalPart }
  else none

def Survives (a : Address) : Prop :=
  a.hasPlainDomain = true ∧ betweenQuotes? a.localPart.toList = none

instance (a : Address) : Decidable a.Survives := inferInstanceAs (Decidable (_ ∧ _))

/-! ### Characters -/

private theorem isAtomText_of_isAtomChar {c : Char} (h : isAtomChar c = true) :
    isAtomText c = true := by
  simp only [isAtomChar, Bool.or_eq_true] at h
  simp only [isAtomText, Bool.or_eq_true, decide_eq_true_eq]
  rcases h with (h | h) | h
  · unfold isAlphanumeric at h
    split at h
    · exact .inl (.inl h)
    · exact .inr (by omega)
  · exact .inl (.inr h)
  · simp only [spellsTwoBytes, Bool.and_eq_true, decide_eq_true_eq] at h
    exact .inr (by omega)

private theorem le_iff_toNat_le {c d : Char} : c ≤ d ↔ c.toNat ≤ d.toNat := Iff.rfl

private theorem isQuotable_of_isQuotedChar {c : Char} (h : isQuotedChar c = true) :
    isQuotable c = true := by
  simp only [isQuotedChar, spellsTwoBytes, le_iff_toNat_le, Bool.or_eq_true, Bool.and_eq_true,
    decide_eq_true_eq, beq_iff_eq, Char.reduceToNat] at h
  rcases h with ((rfl | h) | h) | h
  · rfl
  all_goals
    simp only [isQuotable, Bool.and_eq_true, decide_eq_true_eq, bne_iff_ne]
    omega

private theorem isEscapable_of_isVisible {c : Char} (h : isVisible c = true) :
    isEscapable c = true := by
  simp only [isVisible, le_iff_toNat_le, Bool.and_eq_true, decide_eq_true_eq, Char.reduceToNat] at h
  simp only [isEscapable, Bool.and_eq_true, decide_eq_true_eq, bne_iff_ne]
  omega

private theorem fitsQuotes_of_isQuotedContent {cs : List Char} (h : isQuotedContent cs = true) :
    fitsQuotes cs = true := by
  fun_induction isQuotedContent cs with
  | case1 => rfl
  | case2 c r ih =>
    simp only [Bool.and_eq_true] at h
    simp [fitsQuotes, isEscapable_of_isVisible h.1, ih h.2]
  | case3 c r hc ih =>
    simp only [Bool.and_eq_true, Bool.or_eq_true, beq_iff_eq] at h
    rw [fitsQuotes]
    · rw [ih h.2, Bool.and_true, Bool.or_eq_true]
      rcases h.1 with (rfl | rfl) | hq
      · exact .inl rfl
      · exact .inl rfl
      · exact .inr (isQuotable_of_isQuotedChar hq)
    · exact hc

/-! ### Parts -/

private theorem eq_of_betweenQuotes? {cs inner : List Char} (h : betweenQuotes? cs = some inner)
    (hne : inner ≠ []) : cs = '"' :: (inner ++ ['"']) := by
  unfold betweenQuotes? at h
  split at h
  · next hq =>
    simp only [Bool.and_eq_true, beq_iff_eq] at hq
    simp only [Option.some.injEq] at h
    subst h
    cases cs with
    | nil => simp at hq
    | cons c r =>
      obtain ⟨hc, hlast⟩ := hq
      obtain rfl : c = '"' := by simpa using hc
      have hr : r ≠ [] := by
        rintro rfl
        simp at hne
      rw [List.getLast?_cons_of_ne_nil hr] at hlast
      obtain ⟨body, rfl⟩ := List.getLast?_eq_some_iff.1 hlast
      simp
  · simp at h

namespace WellFormed

variable {a : Address}

/-- The domain is one of atoms with points between them, if its characters allow that. -/
private theorem exists_dotted_domain (h : a.WellFormed) (hplain : a.hasPlainDomain = true) :
    ∃ first others, a.domain.toList = dotted first others ∧ IsAtom first ∧
      ∀ w ∈ others, IsAtom w := by
  cases hsplit : splitAt (· == '.') a.domain.toList with
  | nil => exact absurd hsplit (splitAt_ne_nil _ _)
  | cons first others =>
    have htext := eq_append_of_splitAt hsplit
    have hatom : ∀ w ∈ first :: others, IsAtom w := by
      intro w hw
      rw [← hsplit] at hw
      have hlabels := h.labels
      simp only [hasEmptyLabel, Bool.or_eq_false_iff, beq_eq_false_iff_ne] at hlabels
      obtain ⟨⟨hhead, hlast⟩, hocc⟩ := hlabels
      refine ⟨ne_nil_of_mem_splitAt hw h.domain_ne_nil hhead hlast hocc, ?_⟩
      intro c hc
      obtain ⟨hc, hpoint⟩ := mem_of_mem_splitAt hw hc
      have hchar := List.all_eq_true.1 hplain c hc
      simpa [hpoint] using hchar
    exact ⟨first, others, htext, hatom first (by simp), fun w hw => hatom w (by simp [hw])⟩

theorem localPart_taken (h : a.WellFormed) (rest : List Char) :
    MailboxList.localPart (a.localPart.toList ++ '@' :: rest) =
      some (a.rawLocalPart, '@' :: rest) := by
  have hsign : EndsAtom ('@' :: rest) := by
    intro c hc
    obtain rfl : '@' = c := by simpa using hc
    decide
  have hlocal := h.isLocalPart
  simp only [Address.isLocalPart, Bool.and_eq_true] at hlocal
  obtain ⟨-, hsyntax⟩ := hlocal
  unfold rawLocalPart
  cases hq : betweenQuotes? a.localPart.toList with
  | none =>
    simp only [hq] at hsyntax
    cases hsplit : splitAt (· == '.') a.localPart.toList with
    | nil => exact absurd hsplit (splitAt_ne_nil _ _)
    | cons first others =>
      have hatom : ∀ w ∈ first :: others, IsAtom w := by
        intro w hw
        have hw' := List.all_eq_true.1 hsyntax w (by rw [hsplit]; exact hw)
        simp only [Bool.and_eq_true, Bool.not_eq_true', List.isEmpty_eq_false_iff,
          List.all_eq_true] at hw'
        exact ⟨hw'.1, fun c hc => isAtomText_of_isAtomChar (hw'.2 c hc)⟩
      have htext : a.localPart.toList = dotted first others := eq_append_of_splitAt hsplit
      rw [htext]
      exact localPart_dotted (hatom first (by simp)) (fun w hw => hatom w (by simp [hw])) hsign
        (by simp)
  | some inner =>
    simp only [hq, Bool.and_eq_true, Bool.not_eq_true', List.isEmpty_eq_false_iff] at hsyntax
    have htext := eq_of_betweenQuotes? hq hsyntax.1
    have hnone : ∀ c ∈ inner, isSpacing c = false := by
      intro c hc
      have hblank := h.noBlank_localPart c (by simp [htext, hc])
      rw [Bool.eq_false_iff]
      intro hs
      simp [isBlank_of_isSpacing hs] at hblank
    obtain ⟨y, hread, hy⟩ :=
      quotedString_of_fitsQuotes (fitsQuotes_of_isQuotedContent hsyntax.2) ('@' :: rest)
    have hdots : dotAtom ('"' :: (inner ++ '"' :: '@' :: rest)) = none :=
      dotAtom_eq_none (by simp [isSpacing]) (by simp [EndsAtom, isAtomText])
    simp [htext, MailboxList.localPart, either, hdots, hread, hy hnone]

/-- An address with a plain domain is taken as a whole. -/
theorem address_append (h : a.WellFormed) (hplain : a.hasPlainDomain = true) (rest : List Char)
    (hr : EndsAtom rest) (hp : ∀ c ∈ rest.head?, c ≠ '.') :
    MailboxList.address (a.text.toList ++ rest) =
      some ((.ofList a.rawLocalPart, a.domain), rest) := by
  obtain ⟨first, others, htext, hfirst, hothers⟩ := h.exists_dotted_domain hplain
  have hdomain : MailboxList.domain (a.domain.toList ++ rest) = some (a.domain.toList, rest) := by
    rw [htext]
    exact domain_dotted hfirst hothers hr hp
  simp [MailboxList.address, h.localPart_taken, char, hdomain]

/-- Of an address with another domain, an end of the domain is left. -/
theorem eq_append_of_address (h : a.WellFormed) (hplain : a.hasPlainDomain = false)
    {rest r : List Char} {x : Parts} (hread : MailboxList.address (a.text.toList ++ rest) = some (x, r)) :
    ∃ pre post, post ≠ [] ∧ a.domain.toList = pre ++ post ∧ r = post ++ rest := by
  simp only [MailboxList.address, toList_text, List.append_assoc, List.cons_append, h.localPart_taken,
    char, Option.bind_eq_bind, Option.bind_some, if_true, Option.bind_eq_some_iff, Prod.exists,
    Option.pure_def, Option.some.injEq, Prod.mk.injEq] at hread
  obtain ⟨y, r', hdomain, -, rfl⟩ := hread
  obtain ⟨pre, hpre, hall⟩ := passes_domain hdomain
  have hnot : ∃ c ∈ a.domain.toList, c ∉ pre := by
    simp only [hasPlainDomain, List.all_eq_false, Bool.or_eq_true, beq_iff_eq, not_or] at hplain
    obtain ⟨c, hc, htext, hpoint⟩ := hplain
    refine ⟨c, hc, ?_⟩
    intro hmem
    rcases hall c hmem with hc' | hc' | hc'
    · exact htext hc'
    · exact hpoint hc'
    · have hblank := isBlank_of_isSpacing hc'
      simp [h.noBlank_domain c hc] at hblank
  obtain ⟨c, hc, hmem⟩ := hnot
  rcases List.append_eq_append_iff.1 hpre with ⟨s, rfl, -⟩ | ⟨s, hs, rfl⟩
  · exact absurd (List.mem_append_left s hc) hmem
  · refine ⟨pre, s, ?_, hs, rfl⟩
    rintro rfl
    exact hmem (by simpa [hs] using hc)

end WellFormed

/-! ### What is read back -/

section
variable {a b : Address}

theorem reread?_eq_some_iff :
    a.reread? = some b ↔ a.hasPlainDomain = true ∧ Address.isLocalPart a.rawLocalPart = true ∧
      b = ⟨.ofList a.rawLocalPart, a.domain⟩ := by
  simp only [reread?, Bool.and_eq_true, Option.ite_none_right_eq_some, Option.some.injEq, and_assoc,
    eq_comm (b := b)]

theorem hasPlainDomain_of_reread? (h : a.reread? = some b) : b.hasPlainDomain = true := by
  obtain ⟨hplain, -, rfl⟩ := reread?_eq_some_iff.1 h
  exact hplain

private theorem mem_of_mem_rawLocalPart {c : Char} (h : c ∈ a.rawLocalPart) :
    c ∈ a.localPart.toList := by
  unfold rawLocalPart at h
  split at h
  · next inner hq =>
    have hc := mem_of_mem_unescape h
    have htext := eq_of_betweenQuotes? hq (List.ne_nil_of_mem hc)
    simp [htext, hc]
  · exact h

theorem WellFormed.of_reread? (h : a.WellFormed) (hab : a.reread? = some b) : b.WellFormed := by
  obtain ⟨-, hlocal, rfl⟩ := reread?_eq_some_iff.1 hab
  have hsub : ∀ c, c ∈ (⟨.ofList a.rawLocalPart, a.domain⟩ : Address).text.toList → c ∈ a.text.toList := by
    intro c hc
    simp only [toList_text, String.toList_ofList, List.mem_append, List.mem_cons] at hc ⊢
    exact hc.imp_left mem_of_mem_rawLocalPart
  exact {
    noBlank := fun c hc => h.noBlank c (hsub c hc)
    noAngle := ⟨fun hc => h.noAngle.1 (hsub _ hc), fun hc => h.noAngle.2 (hsub _ hc)⟩
    noSign := ⟨fun hc => h.noSign.1 (mem_of_mem_rawLocalPart (by simpa using hc)), h.noSign.2⟩
    domain_ne_nil := h.domain_ne_nil
    labels := h.labels
    isLocalPart := by simpa using hlocal
    isDomain := h.isDomain }

theorem reread?_of_survives (h : a.WellFormed) (hs : a.Survives) : a.reread? = some a := by
  have hraw : a.rawLocalPart = a.localPart.toList := by rw [rawLocalPart, hs.2]
  simp [reread?, hraw, hs.1, h.isLocalPart]

theorem eq_of_reread? (hab : a.reread? = some b) (hs : a.Survives) : b = a := by
  obtain ⟨-, -, rfl⟩ := reread?_eq_some_iff.1 hab
  simp [rawLocalPart, hs.2]

/-- An address that does not survive gets shorter with each reading. -/
theorem length_lt_of_reread? (hab : a.reread? = some b) (hs : ¬a.Survives) :
    b.localPart.length < a.localPart.length := by
  obtain ⟨hplain, hlocal, rfl⟩ := reread?_eq_some_iff.1 hab
  cases hq : betweenQuotes? a.localPart.toList with
  | none => exact absurd ⟨hplain, hq⟩ hs
  | some inner =>
    have hraw : a.rawLocalPart = unescape inner := by rw [rawLocalPart, hq]
    have hne : inner ≠ [] := by
      rintro rfl
      exact ne_nil_of_isLocalPart hlocal (by rw [hraw]; rfl)
    have htext := congrArg List.length (eq_of_betweenQuotes? hq hne)
    have hlen := length_unescape_le inner
    simp only [List.length_cons, List.length_append, List.length_nil, String.length_toList] at htext
    simp only [hraw, String.length_ofList]
    omega

/-- An address survives exactly if a header gives it back. -/
theorem reread?_eq_self_iff (h : a.WellFormed) : a.reread? = some a ↔ a.Survives := by
  refine ⟨?_, reread?_of_survives h⟩
  intro hab
  apply Decidable.byContradiction
  intro hs
  exact Nat.lt_irrefl _ (length_lt_of_reread? hab hs)

end

end Address

end Mailroom
