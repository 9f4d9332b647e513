import Mailroom.Mailbox
import Mailroom.Proofs.Address.WellFormed
import Mailroom.Proofs.Outcome

/-! Mailboxes that are written down and read again. The address always comes back; the name comes back if it has
neither blanks nor quotation marks at its ends, and otherwise loses some of them. -/
namespace Mailroom.Mailbox

open Text

variable {s name : String} {a : Address} {m : Mailbox} {cs : List Char}

/-! ### What is read -/

def nameOf (cs : List Char) : Option String :=
  match displayName cs with
  | [] => none
  | name => some (.ofList name)

theorem nameOf_eq_some_iff : nameOf cs = some name ↔ name.toList = displayName cs ∧ name ≠ "" := by
  rw [nameOf, Ne, ← String.toList_eq_nil_iff]
  cases displayName cs with
  | nil =>
    refine iff_of_false (by simp) ?_
    rintro ⟨hnil, hne⟩
    exact hne hnil
  | cons c r =>
    simp only [Option.some.injEq, ← String.toList_inj, String.toList_ofList]
    constructor
    · intro h
      simp [← h]
    · rintro ⟨h, -⟩
      exact h.symm

theorem bare_eq_ok_iff : bare s = .ok m ↔ m.name = none ∧ Address.parse s = .ok m.address := by
  obtain ⟨name', a⟩ := m
  simp only [bare, bind_eq_ok_iff, pure_eq_ok_iff, Mailbox.mk.injEq]
  grind

theorem named_eq_ok_iff : named name s = .ok m ↔ m.name = some name ∧ Address.parse s = .ok m.address := by
  obtain ⟨name', a⟩ := m
  simp only [named, bind_eq_ok_iff, pure_eq_ok_iff, Mailbox.mk.injEq]
  grind

private theorem cutLast?_angle_iff {before inner : List Char} :
    cutLast? (· == '<') cs = some (before, inner ++ ['>']) ↔
      cs = before ++ '<' :: (inner ++ ['>']) ∧ '<' ∉ inner := by
  simp only [cutLast?_eq_some_iff, forall_beq_eq_false_iff, beq_iff_eq, exists_eq_left]
  simp

private theorem named_displayName_eq_ok_iff {address : String} :
    (match displayName cs with
      | [] => bare address
      | name => named (.ofList name) address) = .ok m ↔
      m.name = nameOf cs ∧ Address.parse address = .ok m.address := by
  rw [nameOf]
  cases displayName cs with
  | nil => exact bare_eq_ok_iff
  | cons c cs => exact named_eq_ok_iff

/-- A mailbox is an address, or whatever has an address in angle brackets at its end. -/
theorem parse_eq_ok_iff :
    parse s = .ok m ↔
      ('<' ∉ (trim s).toList ∧ m.name = none ∧ Address.parse s = .ok m.address) ∨
        ∃ before inner, (trim s).toList = before ++ '<' :: (inner ++ ['>']) ∧ '<' ∉ inner ∧
          m.name = nameOf before ∧ Address.parse (.ofList inner) = .ok m.address := by
  have hnone : '<' ∉ (trim s).toList ↔ cutLast? (· == '<') (trim s).toList = none := by
    rw [cutLast?_eq_none_iff, forall_beq_eq_false_iff]
  have htrim : Address.parse (trim s) = Address.parse s := by simp [Address.parse]
  have hangle (before inner : List Char) (P : Prop) :
      ((trim s).toList = before ++ '<' :: (inner ++ ['>']) ∧ '<' ∉ inner ∧ P) ↔
        cutLast? (· == '<') (trim s).toList = some (before, inner ++ ['>']) ∧ P := by
    rw [cutLast?_angle_iff, and_assoc]
  simp only [hangle, hnone, parse]
  cases cutLast? (· == '<') (trim s).toList with
  | none => simp [bare_eq_ok_iff, htrim]
  | some pair =>
    obtain ⟨before, after⟩ := pair
    simp only [reduceCtorEq, Option.some.injEq, Prod.mk.injEq, false_and, false_or, and_assoc,
      exists_and_left, exists_eq_left', ← dropSuffix?_eq_some_iff]
    cases dropSuffix? ['>'] after with
    | none => simp
    | some inner =>
      simp only [Option.some.injEq, exists_eq_left']
      exact named_displayName_eq_ok_iff

theorem wellFormed_of_parse (h : parse s = .ok m) : m.address.WellFormed := by
  obtain ⟨-, -, h⟩ | ⟨_, _, -, -, -, h⟩ := parse_eq_ok_iff.1 h
  · exact (Address.parse_eq_ok_iff.1 h).2
  · exact (Address.parse_eq_ok_iff.1 h).2

/-! ### Names -/

/-- A name that is read as it was written: it is not empty, and has neither blanks nor quotation marks at its
ends. -/
def IsLasting (name : String) : Prop :=
  name ≠ "" ∧ (∀ c ∈ name.toList.head?, isBlank c = false ∧ c ≠ '"') ∧
    ∀ c ∈ name.toList.getLast?, isBlank c = false ∧ c ≠ '"'

instance (name : String) : Decidable (IsLasting name) :=
  decidable_of_iff
    (name ≠ "" ∧ name.toList.head?.all (fun c => !isBlank c && c != '"') = true ∧
      name.toList.getLast?.all (fun c => !isBlank c && c != '"') = true) <| by
    simp [IsLasting, Option.all_eq_true]

private theorem displayName_isInfix (cs : List Char) : displayName cs <:+: cs :=
  ((strip_isInfix _ _).trans (strip_isInfix _ _)).trans (strip_isInfix _ _)

private theorem displayName_eq_self_iff :
    displayName cs = cs ↔ strip isBlank cs = cs ∧ strip (· == '"') cs = cs := by
  constructor
  · intro h
    have hblank : strip isBlank cs = cs := by
      apply (strip_isInfix isBlank cs).eq_of_length_le
      have hpart : displayName cs <:+: strip isBlank cs := (strip_isInfix _ _).trans (strip_isInfix _ _)
      rw [h] at hpart
      exact hpart.length_le
    have hquote : strip (· == '"') cs = cs := by
      apply (strip_isInfix _ cs).eq_of_length_le
      have hpart : displayName cs <:+: strip (· == '"') (strip isBlank cs) := strip_isInfix _ _
      rw [h, hblank] at hpart
      exact hpart.length_le
    exact ⟨hblank, hquote⟩
  · rintro ⟨hblank, hquote⟩
    rw [displayName, hblank, hquote, hblank]

theorem nameOf_eq_self_iff : nameOf name.toList = some name ↔ IsLasting name := by
  rw [nameOf_eq_some_iff, eq_comm, displayName_eq_self_iff, strip_eq_self_iff, strip_eq_self_iff, IsLasting]
  simp only [forall_and, beq_eq_false_iff_ne]
  tauto

/-! ### What is written -/

theorem parse_text_bare (h : a.WellFormed) : parse (text ⟨none, a⟩) = .ok ⟨none, a⟩ := by
  refine parse_eq_ok_iff.2 (.inl ⟨?_, rfl, h.parse_text⟩)
  exact h.trim_text ▸ h.noAngle.1

private theorem toList_trim_text_named (name : String) (a : Address) :
    (trim (text ⟨some name, a⟩)).toList =
      (name.toList ++ [' ']).dropWhile isBlank ++ '<' :: (a.text.toList ++ ['>']) := by
  have htext : (text ⟨some name, a⟩).toList =
      (name.toList ++ [' ']) ++ '<' :: (a.text.toList ++ ['>']) := by
    simp [text]
  rw [toList_trim, htext]
  apply strip_append_cons rfl
  intro x hx
  obtain rfl : '>' = x := by simpa [List.getLast?_cons] using hx
  rfl

/-- The name of a mailbox as it is read again: blanks that were dropped, or that the writing adds, do not
count. -/
private theorem nameOf_dropWhile_concat (cs : List Char) :
    nameOf ((cs ++ [' ']).dropWhile isBlank) = nameOf cs := by
  have hspace : isBlank ' ' = true := rfl
  simp only [nameOf, displayName, strip_dropWhile, strip_concat hspace]

theorem parse_text_named (h : a.WellFormed) (name : String) :
    parse (text ⟨some name, a⟩) = .ok ⟨nameOf name.toList, a⟩ := by
  refine parse_eq_ok_iff.2 (.inr ⟨_, _, toList_trim_text_named name a, h.noAngle.1, ?_, ?_⟩)
  · rw [nameOf_dropWhile_concat]
  · rw [String.ofList_toList]
    exact h.parse_text

/-- The mailbox that is read where a mailbox was written. -/
def reread (m : Mailbox) : Mailbox := ⟨m.name.bind fun name => nameOf name.toList, m.address⟩

theorem parse_text (h : m.address.WellFormed) : parse m.text = .ok m.reread := by
  obtain ⟨name?, a⟩ := m
  cases name? with
  | none => exact parse_text_bare h
  | some name => simpa only [reread, Option.bind_some] using parse_text_named h name

theorem reread_eq_self_iff : m.reread = m ↔ ∀ name, m.name = some name → IsLasting name := by
  obtain ⟨name?, a⟩ := m
  cases name? with
  | none => simp [reread]
  | some name => simp [reread, nameOf_eq_self_iff]

/-- A mailbox is read as it was written exactly if it has no name, or one that lasts. Another name is read as a
different one or as none, and the address comes back all the same. -/
theorem parse_text_eq_self_iff (h : Address.parse s = .ok m.address) :
    (parse m.text = .ok m ↔ ∀ name, m.name = some name → IsLasting name) ∧
      ∀ name, m.name = some name → ¬IsLasting name →
        ∃ other, other ≠ m.name ∧ parse m.text = .ok ⟨other, m.address⟩ := by
  have hparse : parse m.text = .ok m.reread := parse_text (Address.parse_eq_ok_iff.1 h).2
  have hself : parse m.text = .ok m ↔ m.reread = m := by rw [hparse, Except.ok.injEq]
  refine ⟨hself.trans reread_eq_self_iff, fun name hname hlasts => ?_⟩
  refine ⟨m.reread.name, fun heq => hlasts ?_, hparse⟩
  have hreread : m.reread = m := by
    calc m.reread = ⟨m.reread.name, m.address⟩ := rfl
      _ = m := by rw [heq]
  exact reread_eq_self_iff.1 hreread name hname

def motleyName : String := "<Jane> \"J.\"\nDoe, jane@home"

theorem motleyName_comes_back :
    ∃ a, Address.parse " jane@example.com" = .ok a ∧
      parse (text ⟨some motleyName, a⟩) = .ok ⟨some motleyName, a⟩ ∧
      ∃ other, other ≠ some "\"Jane\"" ∧ parse (text ⟨some "\"Jane\"", a⟩) = .ok ⟨other, a⟩ := by
  have ha : Address.parse " jane@example.com" = .ok ⟨"jane", "example.com"⟩ := by decide +kernel
  refine ⟨_, ha, ?_, ?_⟩
  · apply (parse_text_eq_self_iff (m := ⟨some motleyName, _⟩) ha).1.2
    intro name hname
    obtain rfl : motleyName = name := Option.some.inj hname
    decide +kernel
  · exact (parse_text_eq_self_iff (m := ⟨some "\"Jane\"", _⟩) ha).2 _ rfl (by decide +kernel)

/-! ### Reading again and again -/

def rereadTimes : Nat → Mailbox → Except Address.Refusal Mailbox
  | 0, m => .ok m
  | k + 1, m => do rereadTimes k (← parse m.text)

def IsQuoted (m : Mailbox) : Prop :=
  ∃ name, m.name = some name ∧ (name.toList.head? = some '"' ∨ name.toList.getLast? = some '"')

def nameLength (m : Mailbox) : Nat := m.name.elim 0 fun name => name.toList.length + 1

/-- A name that was read has no blanks at its ends, so that only quotation marks can keep it from lasting. -/
private theorem reread_eq_self_iff_of_parse (h : parse s = .ok m) : m.reread = m ↔ ¬m.IsQuoted := by
  have hlasts {name : String} (hname : m.name = some name) :
      IsLasting name ↔ ¬(name.toList.head? = some '"' ∨ name.toList.getLast? = some '"') := by
    obtain ⟨cs, hcs⟩ : ∃ cs, nameOf cs = some name := by
      obtain ⟨-, hnone, -⟩ | ⟨before, _, -, -, hbefore, -⟩ := parse_eq_ok_iff.1 h
      · cases hnone.symm.trans hname
      · exact ⟨before, hbefore.symm.trans hname⟩
    obtain ⟨htext, hne⟩ := nameOf_eq_some_iff.1 hcs
    have hstrip : strip isBlank name.toList = name.toList := by rw [htext, displayName, strip_strip]
    rw [← nameOf_eq_self_iff, nameOf_eq_some_iff, eq_comm, displayName_eq_self_iff, strip_beq_eq_self_iff,
      not_or]
    exact ⟨fun h => h.1.2, fun h => ⟨⟨hstrip, h⟩, hne⟩⟩
  simp only [reread_eq_self_iff, IsQuoted, not_exists, not_and]
  exact forall₂_congr fun name hname => hlasts hname

theorem nameLength_reread_lt (h : m.reread ≠ m) : m.reread.nameLength < m.nameLength := by
  obtain ⟨name?, a⟩ := m
  cases name? with
  | none => exact absurd rfl h
  | some name =>
    simp only [nameLength, reread, Option.bind_some, Option.elim_some]
    cases hname : nameOf name.toList with
    | none => simp
    | some name' =>
      obtain ⟨htext, -⟩ := nameOf_eq_some_iff.1 hname
      have hpart : name'.toList <:+: name.toList := htext ▸ displayName_isInfix name.toList
      have hne : name'.toList.length ≠ name.toList.length := by
        intro hlength
        have heq : name' = name := String.toList_inj.1 (hpart.eq_of_length hlength)
        exact h (by simp [reread, hname, heq])
      have hle := hpart.length_le
      simp only [Option.elim_some]
      omega

private theorem rereadTimes_of_reread_eq_self (hm : m.address.WellFormed) (h : m.reread = m)
    (k : Nat) :
    rereadTimes k m = .ok m := by
  induction k with
  | zero => rfl
  | succ k ih =>
    rw [rereadTimes, parse_text hm, h]
    exact ih

theorem exists_rereadTimes_settled (hm : m.address.WellFormed) :
    ∃ k ≤ m.nameLength, ∃ m', rereadTimes k m = .ok m' ∧ m'.address = m.address ∧ m'.reread = m' := by
  -- Each time that the name changes it gets shorter.
  induction hlength : m.nameLength using Nat.strong_induction_on generalizing m with
  | _ n ih =>
    by_cases hself : m.reread = m
    · exact ⟨0, Nat.zero_le n, m, rfl, rfl, hself⟩
    · have hlt := nameLength_reread_lt hself
      rw [hlength] at hlt
      obtain ⟨k, hk, m', hm', haddress, hsettled⟩ := @ih _ hlt m.reread hm rfl
      refine ⟨k + 1, by omega, m', ?_, haddress, hsettled⟩
      rw [rereadTimes, parse_text hm]
      exact hm'

/-- A mailbox that was read is read as it was written, and that any number of times, exactly if its name has no
quotation mark at its ends. Otherwise it is read with a shorter name or with none, and reading it again and again
comes to an end, at the same address. -/
theorem rereading_settles (h : parse s = .ok m) :
    (parse m.text = .ok m ↔ ¬m.IsQuoted) ∧ ((∀ k, rereadTimes k m = .ok m) ↔ ¬m.IsQuoted) ∧
      ∃ k ≤ m.nameLength, ∃ m', rereadTimes k m = .ok m' ∧ m'.address = m.address ∧
        parse m'.text = .ok m' := by
  have hm := wellFormed_of_parse h
  have hself : parse m.text = .ok m ↔ ¬m.IsQuoted := by
    rw [parse_text hm, Except.ok.injEq, reread_eq_self_iff_of_parse h]
  refine ⟨hself, ⟨fun hall => ?_, fun hquoted => ?_⟩, ?_⟩
  · obtain ⟨m', hparse, heq⟩ := bind_eq_ok_iff.1 (hall 1)
    obtain rfl : m' = m := by simpa [rereadTimes] using heq
    exact hself.1 hparse
  · exact rereadTimes_of_reread_eq_self hm ((reread_eq_self_iff_of_parse h).2 hquoted)
  · obtain ⟨k, hk, m', hm', haddress, hsettled⟩ := exists_rereadTimes_settled hm
    refine ⟨k, hk, m', hm', haddress, ?_⟩
    rw [parse_text (haddress ▸ hm), hsettled]

def doublyQuoted : String := "\" \"Jane\" \" <jane@example.com>"

def quotedJane : Mailbox := ⟨some "\"Jane\"", ⟨"jane", "example.com"⟩⟩

theorem quotedJane_settles :
    parse doublyQuoted = .ok quotedJane ∧ parse quotedJane.text ≠ .ok quotedJane ∧
      ∃ k ≤ 7, ∃ m', rereadTimes k quotedJane = .ok m' ∧ m'.address = quotedJane.address ∧
        parse m'.text = .ok m' := by
  have hparse : parse doublyQuoted = .ok quotedJane := by decide +kernel
  have hquoted : quotedJane.IsQuoted := ⟨_, rfl, .inl (by decide +kernel)⟩
  obtain ⟨hself, -, hsettles⟩ := rereading_settles hparse
  exact ⟨hparse, fun heq => hself.1 heq hquoted, hsettles⟩

/-- Reading what was read once may change the name. -/
theorem quotedJane_changes : ¬∀ s m, parse s = .ok m → parse m.text = .ok m := by
  intro hall
  have hparse : parse doublyQuoted = .ok quotedJane := by decide +kernel
  have hagain : parse quotedJane.text = .ok ⟨some "Jane", quotedJane.address⟩ := by decide +kernel
  exact absurd (hagain.symm.trans (hall _ _ hparse)) (by decide)

end Mailroom.Mailbox
