import Mailroom.Address.Basic
import Mailroom.Proofs.Text.Cutting
import Mailroom.Proofs.Text.Trimming

/-! The addresses that can be read: what holds of one that was read, and is enough to read it again. -/
namespace Mailroom.Address

open Text

/-- The two parts are as the syntax asks for, and between them stands the only sign of the text. -/
structure WellFormed (a : Address) : Prop where
  noBlank : ∀ c ∈ a.text.toList, isBlank c = false
  noAngle : '<' ∉ a.text.toList ∧ '>' ∉ a.text.toList
  noSign : '@' ∉ a.localPart.toList ∧ '@' ∉ a.domain.toList
  domain_ne_nil : a.domain.toList ≠ []
  labels : hasEmptyLabel a.domain.toList = false
  isLocalPart : isLocalPart a.localPart.toList = true
  isDomain : isDomain a.domain.toList = true

@[simp] theorem toList_text (a : Address) :
    a.text.toList = a.localPart.toList ++ '@' :: a.domain.toList := by
  simp [text]

theorem ne_nil_of_isLocalPart {cs : List Char} (h : isLocalPart cs = true) : cs ≠ [] := by
  rintro rfl
  simp [Address.isLocalPart, byteCount] at h

namespace WellFormed

variable {a : Address}

theorem localPart_ne_nil (h : a.WellFormed) : a.localPart.toList ≠ [] :=
  ne_nil_of_isLocalPart h.isLocalPart

theorem noBlank_localPart (h : a.WellFormed) : ∀ c ∈ a.localPart.toList, isBlank c = false :=
  fun c hc => h.noBlank c (by simp [hc])

theorem noBlank_domain (h : a.WellFormed) : ∀ c ∈ a.domain.toList, isBlank c = false :=
  fun c hc => h.noBlank c (by simp [hc])

end WellFormed

private theorem wellFormed_of_parts {cs : List Char} {a : Address}
    (h : parts cs = .ok (a.localPart.toList, a.domain.toList)) : cs = a.text.toList ∧ a.WellFormed := by
  unfold parts at h
  split at h
  · simp at h
  split at h
  · simp at h
  next hplain =>
  split at h
  · simp at h
  next l d hcut =>
  obtain ⟨c, hc, rfl, hl⟩ := eq_append_of_cutFirst? hcut
  obtain rfl : c = '@' := by simpa using hc
  iterate 5
    split at h
    · simp at h
  next hsign hempty hlabels hlocal hdomain =>
  simp only [Except.ok.injEq, Prod.mk.injEq] at h
  obtain ⟨rfl, rfl⟩ := h
  simp only [List.any_eq_true, not_exists, not_and, Bool.not_eq_true, Bool.or_eq_false_iff,
    beq_eq_false_iff_ne] at hplain
  refine ⟨by simp, ?_, ?_, ⟨?_, ?_⟩, ?_, ?_, ?_, ?_⟩
  · intro c hc
    exact (hplain c (by simpa using hc)).1.1
  · constructor
    · intro hc
      exact (hplain _ (by simpa using hc)).1.2 rfl
    · intro hc
      exact (hplain _ (by simpa using hc)).2 rfl
  · intro hc
    simpa using hl _ hc
  · simpa using hsign
  · intro hd
    simp [hd] at hempty
  · simpa using hlabels
  · simpa using hlocal
  · simpa using hdomain

private theorem WellFormed.parts_text {a : Address} (h : a.WellFormed) :
    parts a.text.toList = .ok (a.localPart.toList, a.domain.toList) := by
  have hcut : cutFirst? (· == '@') a.text.toList =
      some (a.localPart.toList, a.domain.toList) := by
    rw [toList_text]
    apply cutFirst?_append
    · intro x hx
      have : x ≠ '@' := fun he => h.noSign.1 (he ▸ hx)
      simpa using this
    · rfl
  have hplain : (a.text.toList.any fun c => isBlank c || c == '<' || c == '>') = false := by
    simp only [List.any_eq_false, Bool.or_eq_true, beq_iff_eq, not_or, Bool.not_eq_true]
    intro c hc
    exact ⟨⟨h.noBlank c hc, fun he => h.noAngle.1 (he ▸ hc)⟩, fun he => h.noAngle.2 (he ▸ hc)⟩
  have hsign : a.domain.toList.contains '@' = false := by simpa using h.noSign.2
  have hlocal : a.localPart.toList.isEmpty = false := by simpa using h.localPart_ne_nil
  have hdomain : a.domain.toList.isEmpty = false := by simpa using h.domain_ne_nil
  have hempty : a.text.toList.isEmpty = false := by simp
  simp only [parts, hempty, hplain, hcut, hsign, hlocal, hdomain, h.labels, h.isLocalPart,
    h.isDomain]
  rfl

/-- A text has two parts exactly if it is written as an address with these parts. -/
theorem parts_eq_ok_iff {cs : List Char} {a : Address} :
    parts cs = .ok (a.localPart.toList, a.domain.toList) ↔ cs = a.text.toList ∧ a.WellFormed := by
  constructor
  · exact wellFormed_of_parts
  · rintro ⟨rfl, h⟩
    exact h.parts_text

/-- A text is read as an address exactly if it is that address but for blanks around it. -/
theorem parse_eq_ok_iff {s : String} {a : Address} :
    parse s = .ok a ↔ trim s = a.text ∧ a.WellFormed := by
  have htext : (trim s).toList = a.text.toList ↔ trim s = a.text := String.toList_inj
  rw [← htext, ← parts_eq_ok_iff, parse]
  constructor
  · intro h
    cases hparts : parts (trim s).toList with
    | error reason => simp only [hparts, reduceCtorEq] at h
    | ok pair =>
      simp only [hparts, Except.ok.injEq] at h
      simp [← h]
  · intro h
    simp only [h, String.ofList_toList]

theorem WellFormed.trim_text {a : Address} (h : a.WellFormed) : trim a.text = a.text :=
  trim_of_forall h.noBlank

/-- An address is read from its own text. -/
theorem WellFormed.parse_text {a : Address} (h : a.WellFormed) : parse a.text = .ok a :=
  parse_eq_ok_iff.2 ⟨h.trim_text, h⟩

end Mailroom.Address
