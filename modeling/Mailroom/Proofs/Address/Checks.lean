import Mailroom.Proofs.Mailbox

/-! What is asked of an address, one thing after the other. A text is read exactly if it passes all checks, and is
refused for the first one that it does not pass. -/
namespace Mailroom.Address

open Text

variable {cs l d : List Char} {s : String} {a : Address} {reason r : Reason} {refusal : Refusal}

/-! ### The checks -/

structure Check where
  reason : Reason
  Passes : List Char → Prop

def AtSigns (P : List Char → List Char → Prop) (cs : List Char) : Prop :=
  ∀ l d, cs = l ++ '@' :: d → P l d

def IsPointed (d : List Char) : Prop :=
  d.head? ≠ some '.' ∧ d.getLast? ≠ some '.' ∧ ¬['.', '.'] <:+: d

def checks : List Check :=
  [ ⟨.empty, (· ≠ [])⟩,
    ⟨.blankOrAngle, fun cs => ∀ c ∈ cs, isBlank c = false ∧ c ≠ '<' ∧ c ≠ '>'⟩,
    ⟨.noSign, ('@' ∈ ·)⟩,
    ⟨.manySigns, fun cs => cs.count '@' ≤ 1⟩,
    ⟨.emptyPart, AtSigns fun l d => l ≠ [] ∧ d ≠ []⟩,
    ⟨.domain, AtSigns fun _ d => IsPointed d⟩,
    ⟨.localPart, AtSigns fun l _ => isLocalPart l = true⟩,
    ⟨.domain, AtSigns fun _ d => isDomain d = true⟩ ]

/-- The reason is that of the first check that the text does not pass. -/
inductive IsFirstAgainst (cs : List Char) : List Check → Reason → Prop
  | here {c : Check} {later : List Check} (h : ¬c.Passes cs) : IsFirstAgainst cs (c :: later) c.reason
  | later {c : Check} {later : List Check} {reason : Reason} (h : c.Passes cs)
      (hlater : IsFirstAgainst cs later reason) : IsFirstAgainst cs (c :: later) reason

section
variable {c : Check} {later : List Check}

private theorem isFirstAgainst_cons_of_not_passes (h : ¬c.Passes cs) :
    IsFirstAgainst cs (c :: later) reason ↔ reason = c.reason := by
  constructor
  · intro hfirst
    cases hfirst with
    | here => rfl
    | later hc => contradiction
  · rintro rfl
    exact .here h

private theorem isFirstAgainst_cons_of_passes (h : c.Passes cs) :
    IsFirstAgainst cs (c :: later) reason ↔ IsFirstAgainst cs later reason := by
  constructor
  · intro hfirst
    cases hfirst with
    | here hc => contradiction
    | later _ hlater => exact hlater
  · exact .later h

/-- A check that is made, and what comes after it if the text passes. -/
private theorem ite_eq_error_iff {α : Type} {P : List Char → Prop} {b : Bool} {x : Except Reason α}
    (hb : b = true ↔ ¬P cs) (hx : P cs → (x = .error reason ↔ IsFirstAgainst cs later reason)) :
    (if b then .error r else x) = .error reason ↔ IsFirstAgainst cs (⟨r, P⟩ :: later) reason := by
  by_cases hP : P cs
  · rw [if_neg fun h => hb.1 h hP, hx hP]
    exact (isFirstAgainst_cons_of_passes hP).symm
  · rw [if_pos (hb.2 hP), Except.error.injEq, eq_comm]
    exact (isFirstAgainst_cons_of_not_passes (c := ⟨r, P⟩) hP).symm

end

private theorem exists_isFirstAgainst_iff {cks : List Check} :
    (∃ reason, IsFirstAgainst cs cks reason) ↔ ∃ c ∈ cks, ¬c.Passes cs := by
  constructor
  · rintro ⟨reason, h⟩
    induction h with
    | here hc => exact ⟨_, by simp, hc⟩
    | later _ _ ih =>
      obtain ⟨c, hmem, hc⟩ := ih
      exact ⟨c, by simp [hmem], hc⟩
  · intro h
    induction cks with
    | nil => simp at h
    | cons c cks ih =>
      by_cases hc : c.Passes cs
      · obtain ⟨reason, hreason⟩ := ih (by simpa [hc] using h)
        exact ⟨reason, .later hc hreason⟩
      · exact ⟨c.reason, .here hc⟩

/-! ### What is found -/

private theorem hasEmptyLabel_eq_false_iff : hasEmptyLabel d = false ↔ IsPointed d := by
  simp only [hasEmptyLabel, IsPointed, Bool.or_eq_false_iff, beq_eq_false_iff_ne, ← occurs_iff, Bool.not_eq_true,
    and_assoc, ne_eq]

/-- A text with one sign is cut in one way. -/
private theorem atSigns_iff {P : List Char → List Char → Prop} (hl : '@' ∉ l) (hd : '@' ∉ d) :
    AtSigns P (l ++ '@' :: d) ↔ P l d := by
  constructor
  · intro h
    exact h l d rfl
  · intro h l' d' heq
    obtain ⟨rfl, -, rfl⟩ := (List.append_cons_inj_of_notMem hl hd).1 heq
    exact h

/-- A text is refused for the first check that it does not pass. -/
theorem parts_eq_error_iff : parts cs = .error reason ↔ IsFirstAgainst cs checks reason := by
  unfold parts checks
  refine ite_eq_error_iff ?_ fun _ => ?_
  · simp
  refine ite_eq_error_iff ?_ fun _ => ?_
  · simp [imp_iff_not_or, or_assoc]
  cases hcut : cutFirst? (· == '@') cs with
  | none =>
    rw [isFirstAgainst_cons_of_not_passes (forall_beq_eq_false_iff.1 (cutFirst?_eq_none_iff.1 hcut)),
      Except.error.injEq, eq_comm]
  | some pair =>
    obtain ⟨l, d⟩ := pair
    obtain ⟨c, hc, rfl, hl⟩ := cutFirst?_eq_some_iff.1 hcut
    obtain rfl : c = '@' := by simpa using hc
    rw [forall_beq_eq_false_iff] at hl
    rw [isFirstAgainst_cons_of_passes (by simp)]
    refine ite_eq_error_iff ?_ fun hsign => ?_
    · simp [List.count_eq_zero.2 hl, List.count_eq_zero]
    -- There is one sign only, so that the text has just these two parts.
    have hd : '@' ∉ d := by simpa [List.count_eq_zero.2 hl, List.count_eq_zero] using hsign
    refine ite_eq_error_iff ?_ fun _ => ?_
    · simp [atSigns_iff hl hd, imp_iff_not_or]
    refine ite_eq_error_iff ?_ fun _ => ?_
    · simp [atSigns_iff hl hd, ← hasEmptyLabel_eq_false_iff]
    refine ite_eq_error_iff ?_ fun _ => ?_
    · simp [atSigns_iff hl hd]
    refine ite_eq_error_iff ?_ fun _ => ?_
    · simp [atSigns_iff hl hd]
    exact iff_of_false nofun nofun

/-- A text is read unless it is refused. -/
theorem exists_parse_eq_ok_iff : (∃ a, parse s = .ok a) ↔ ∀ c ∈ checks, c.Passes (trim s).toList := by
  have hnone : (∀ reason, ¬IsFirstAgainst (trim s).toList checks reason) ↔
      ∀ c ∈ checks, c.Passes (trim s).toList := by
    rw [← not_exists, exists_isFirstAgainst_iff]
    simp
  rw [← hnone]
  simp only [← parts_eq_error_iff, parse]
  cases parts (trim s).toList with
  | ok pair => simp
  | error reason => simp

theorem parse_eq_error_iff :
    parse s = .error refusal ↔
      refusal.text = trim s ∧ IsFirstAgainst (trim s).toList checks refusal.reason := by
  obtain ⟨text, reason⟩ := refusal
  rw [← parts_eq_error_iff, parse]
  cases parts (trim s).toList with
  | ok pair => simp
  | error reason => simp [eq_comm]

/-! ### What has been read -/

/-- What holds of an address that was read: its only sign stands between its two parts, neither of which is empty;
the text has neither blanks nor angle brackets, and both parts are as the syntax of mail asks for. -/
structure Sound (a : Address) : Prop where
  count_sign : a.text.toList.count '@' = 1
  first_sign : cutFirst? (· == '@') a.text.toList = some (a.localPart.toList, a.domain.toList)
  last_sign : cutLast? (· == '@') a.text.toList = some (a.localPart.toList, a.domain.toList)
  localPart_ne_empty : a.localPart ≠ ""
  domain_ne_empty : a.domain ≠ ""
  plain : ∀ c ∈ a.text.toList, isBlank c = false ∧ c ≠ '<' ∧ c ≠ '>'
  pointed : IsPointed a.domain.toList
  isLocalPart : isLocalPart a.localPart.toList = true
  isDomain : isDomain a.domain.toList = true

theorem WellFormed.sound (h : a.WellFormed) : a.Sound where
  count_sign := by
    simp [List.count_eq_zero.2 h.noSign.1, List.count_eq_zero.2 h.noSign.2]
  first_sign := by
    rw [toList_text]
    exact cutFirst?_append (forall_beq_eq_false_iff.2 h.noSign.1) rfl _
  last_sign := by
    rw [toList_text, cutLast?_eq_some_iff]
    exact ⟨'@', rfl, rfl, forall_beq_eq_false_iff.2 h.noSign.2⟩
  localPart_ne_empty hempty := h.localPart_ne_nil (by simp [hempty])
  domain_ne_empty hempty := h.domain_ne_nil (by simp [hempty])
  plain c hc := ⟨h.noBlank c hc, fun heq => h.noAngle.1 (heq ▸ hc), fun heq => h.noAngle.2 (heq ▸ hc)⟩
  pointed := hasEmptyLabel_eq_false_iff.1 h.labels
  isLocalPart := h.isLocalPart
  isDomain := h.isDomain

theorem Sound.wellFormed (h : a.Sound) : a.WellFormed where
  noBlank c hc := (h.plain c hc).1
  noAngle := ⟨fun hc => (h.plain _ hc).2.1 rfl, fun hc => (h.plain _ hc).2.2 rfl⟩
  noSign := by
    have hcount := h.count_sign
    simp only [toList_text, List.count_append, List.count_cons_self] at hcount
    constructor
    · exact List.count_eq_zero.1 (by omega)
    · exact List.count_eq_zero.1 (by omega)
  domain_ne_nil := by
    rw [Ne, String.toList_eq_nil_iff]
    exact h.domain_ne_empty
  labels := hasEmptyLabel_eq_false_iff.2 h.pointed
  isLocalPart := h.isLocalPart
  isDomain := h.isDomain

/-- A text is read, but for blanks around it, as the sound address that it spells, and that address is read again,
also as a mailbox without a name. Every text is read that passes all checks, and any other one is refused for the
first that it does not pass. -/
theorem checks_decide (s : String) :
    (∀ a, parse s = .ok a ↔ a.text = trim s ∧ a.Sound) ∧
      (∀ a, parse s = .ok a → parse a.text = .ok a ∧ Mailbox.parse a.text = .ok ⟨none, a⟩) ∧
      ((∃ a, parse s = .ok a) ↔ ∀ c ∈ checks, c.Passes (trim s).toList) ∧
      ∀ refusal, parse s = .error refusal ↔
        refusal.text = trim s ∧ IsFirstAgainst (trim s).toList checks refusal.reason := by
  refine ⟨fun a => ?_, fun a ha => ?_, exists_parse_eq_ok_iff, fun _ => parse_eq_error_iff⟩
  · rw [parse_eq_ok_iff, eq_comm]
    exact and_congr_right fun _ => ⟨WellFormed.sound, Sound.wellFormed⟩
  · obtain ⟨-, hwell⟩ := parse_eq_ok_iff.1 ha
    exact ⟨hwell.parse_text, Mailbox.parse_text_bare hwell⟩

def blanksAround : String := " jane@example.com\t"

theorem blanksAround_is_read :
    ∃ a, parse blanksAround = .ok a ∧ a.Sound ∧ parse a.text = .ok a ∧
      Mailbox.parse a.text = .ok ⟨none, a⟩ := by
  obtain ⟨hiff, hagain, -, -⟩ := checks_decide blanksAround
  have ha : parse blanksAround = .ok ⟨"jane", "example.com"⟩ := by decide +kernel
  exact ⟨_, ha, ((hiff _).1 ha).2, hagain _ ha⟩

/-- The signs are counted before the domain is looked at. -/
example : parse "a@.b@c" = .error ⟨"a@.b@c", .manySigns⟩ := by decide +kernel

end Mailroom.Address
