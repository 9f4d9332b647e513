import Mailroom.Text.Blank
import Mathlib.Data.List.DropRight

/-! Trimmed texts: those with no blank at either end, which trimming keeps as they are. -/
namespace Mailroom.Text

variable {p : Char → Bool} {c : Char} {cs : List Char}

theorem stripEnd_eq_rdropWhile (p : Char → Bool) (cs : List Char) :
    stripEnd p cs = cs.rdropWhile p := rfl

private theorem head_of_dropWhile_eq (h : cs.dropWhile p = cs) (hc : c ∈ cs.head?) :
    p c = false := by
  have hhead := List.head?_dropWhile_not p cs
  rw [h, Option.mem_def.1 hc] at hhead
  exact hhead

private theorem getLast_of_stripEnd_eq (h : stripEnd p cs = cs) (hc : c ∈ cs.getLast?) :
    p c = false := by
  have hrev : cs.reverse.dropWhile p = cs.reverse := by
    simpa [stripEnd] using congrArg List.reverse h
  exact head_of_dropWhile_eq hrev (by simpa using hc)

/-- A text is stripped exactly if neither its first character nor its last one goes. -/
theorem strip_eq_self_iff :
    strip p cs = cs ↔ (∀ c ∈ cs.head?, p c = false) ∧ ∀ c ∈ cs.getLast?, p c = false := by
  constructor
  · intro h
    have hdrop : cs.dropWhile p = cs := by
      apply (List.dropWhile_suffix p).eq_of_length_le
      have hpre : strip p cs <+: cs.dropWhile p := List.rdropWhile_prefix p _
      rw [h] at hpre
      exact hpre.length_le
    rw [strip, hdrop] at h
    exact ⟨fun _ => head_of_dropWhile_eq hdrop, fun _ => getLast_of_stripEnd_eq h⟩
  · rintro ⟨hhead, hlast⟩
    have hdrop : cs.dropWhile p = cs := by
      cases cs with
      | nil => rfl
      | cons x cs => simp [hhead x (by simp)]
    rw [strip, hdrop, stripEnd_eq_rdropWhile, List.rdropWhile_eq_self_iff]
    intro hne
    simp [hlast _ (List.getLast_mem_getLast? hne)]

theorem strip_beq_eq_self_iff {d : Char} :
    strip (· == d) cs = cs ↔ cs.head? ≠ some d ∧ cs.getLast? ≠ some d := by
  have hne (o : Option Char) : (∀ c ∈ o, (c == d) = false) ↔ o ≠ some d := by
    cases o <;> simp
  rw [strip_eq_self_iff, hne, hne]

@[simp] theorem strip_strip (p : Char → Bool) (cs : List Char) :
    strip p (strip p cs) = strip p cs := by
  have hlast : stripEnd p (strip p cs) = strip p cs := List.rdropWhile_idempotent p _
  have hdrop : (strip p cs).dropWhile p = strip p cs := by
    obtain ⟨rest, hrest⟩ : strip p cs <+: cs.dropWhile p := List.rdropWhile_prefix p _
    cases hs : strip p cs with
    | nil => rfl
    | cons x xs =>
      have hx : p x = false :=
        head_of_dropWhile_eq (List.dropWhile_idempotent p cs) (by rw [← hrest, hs]; simp)
      simp [hx]
  rw [strip, hdrop, hlast]

theorem strip_isInfix (p : Char → Bool) (cs : List Char) : strip p cs <:+: cs :=
  (List.rdropWhile_prefix p _).isInfix.trans (List.dropWhile_suffix p).isInfix

theorem strip_dropWhile (p : Char → Bool) (cs : List Char) : strip p (cs.dropWhile p) = strip p cs := by
  rw [strip, List.dropWhile_idempotent, strip]

theorem strip_concat (hc : p c = true) (cs : List Char) : strip p (cs ++ [c]) = strip p cs := by
  rw [strip, List.dropWhile_append]
  split
  · next hnone =>
    rw [strip, List.isEmpty_iff.1 hnone]
    simp [hc]
  · rw [stripEnd_eq_rdropWhile, List.rdropWhile_concat_pos p _ _ hc]
    rfl

/-- If the last character stays, then only what comes before the first one to stay goes. -/
theorem strip_append_cons {b : List Char} (hc : p c = false) (hlast : ∀ x ∈ (c :: b).getLast?, p x = false)
    (a : List Char) : strip p (a ++ c :: b) = a.dropWhile p ++ c :: b := by
  have hfront : (a ++ c :: b).dropWhile p = a.dropWhile p ++ c :: b := by
    rw [List.dropWhile_append]
    split
    · next hnone => simp [hc, List.isEmpty_iff.1 hnone]
    · rfl
  rw [strip, hfront, stripEnd_eq_rdropWhile, List.rdropWhile_eq_self_iff]
  intro hne
  have hstays := hlast _ (List.getLast_mem_getLast? (List.cons_ne_nil c b))
  simpa using hstays

/-- Nothing is stripped from a text without such characters. -/
theorem strip_of_forall (h : ∀ c ∈ cs, p c = false) : strip p cs = cs :=
  strip_eq_self_iff.2
    ⟨fun _ hc => h _ (List.mem_of_mem_head? hc), fun _ hc => h _ (List.mem_of_getLast? hc)⟩

private theorem mem_dropWhile (hc : c ∈ cs) (hp : p c = false) : c ∈ cs.dropWhile p := by
  rw [← List.takeWhile_append_dropWhile (p := p) (l := cs), List.mem_append] at hc
  refine hc.resolve_left fun htake => ?_
  cases hp.symm.trans (List.mem_takeWhile_imp htake)

/-- What does not go is still there. -/
theorem mem_strip (hc : c ∈ cs) (hp : p c = false) : c ∈ strip p cs := by
  have hfront := mem_dropWhile hc hp
  simp only [strip, stripEnd, List.mem_reverse]
  exact mem_dropWhile (List.mem_reverse.2 hfront) hp

theorem strip_eq_nil_iff : strip p cs = [] ↔ ∀ c ∈ cs, p c = true := by
  constructor
  · intro h c hc
    by_contra hp
    have hmem := mem_strip hc (Bool.eq_false_iff.2 hp)
    simp [h] at hmem
  · intro h
    rw [strip, List.dropWhile_eq_nil_iff.2 h]
    rfl

@[simp] theorem trim_trim (s : String) : trim (trim s) = trim s := by
  simp [trim]

/-- A text without blanks is trimmed. -/
theorem trim_of_forall {s : String} (h : ∀ c ∈ s.toList, isBlank c = false) : trim s = s := by
  simp [trim, strip_of_forall h]

theorem trim_eq_empty_iff {s : String} : trim s = "" ↔ isAllBlank s = true := by
  rw [← String.toList_eq_nil_iff, toList_trim, strip_eq_nil_iff, isAllBlank, List.all_eq_true]

def IsProper (s : String) : Prop := trim s = s ∧ s ≠ ""

instance (s : String) : Decidable (IsProper s) := inferInstanceAs (Decidable (_ ∧ _))

end Mailroom.Text
