import Mailroom.Text.Blank
import Mailroom.Text.Split

/-! What cutting a text leaves: the parts and the characters between them are the text. -/
namespace Mailroom.Text

variable {p : Char → Bool} {c d : Char} {a b cs : List Char}

/-! ### At the first or last character -/

theorem cutFirst?_append (ha : ∀ x ∈ a, p x = false) (hc : p c = true) (b : List Char) :
    cutFirst? p (a ++ c :: b) = some (a, b) := by
  induction a with
  | nil => simp [cutFirst?, hc]
  | cons x a ih =>
    have hx := ha x (by simp)
    have ih := ih fun y hy => ha y (by simp [hy])
    simp [cutFirst?, hx, ih]

theorem eq_append_of_cutFirst? (h : cutFirst? p cs = some (a, b)) :
    ∃ c, p c = true ∧ cs = a ++ c :: b ∧ ∀ x ∈ a, p x = false := by
  induction cs generalizing a with
  | nil => simp [cutFirst?] at h
  | cons x cs ih =>
    unfold cutFirst? at h
    split at h
    · next hx =>
      cases h
      exact ⟨x, hx, rfl, by simp⟩
    · next hx =>
      obtain ⟨⟨a', b'⟩, hcut, heq⟩ := Option.map_eq_some_iff.1 h
      cases heq
      obtain ⟨y, hy, rfl, hnone⟩ := ih hcut
      refine ⟨y, hy, rfl, ?_⟩
      intro z hz
      rcases List.mem_cons.1 hz with rfl | hz
      · simpa using hx
      · exact hnone z hz

theorem cutFirst?_eq_none_iff : cutFirst? p cs = none ↔ ∀ x ∈ cs, p x = false := by
  induction cs with
  | nil => simp [cutFirst?]
  | cons x cs ih =>
    cases hx : p x with
    | false => simp [cutFirst?, hx, ih]
    | true => simp [cutFirst?, hx]

theorem cutFirst?_eq_some_iff :
    cutFirst? p cs = some (a, b) ↔ ∃ c, p c = true ∧ cs = a ++ c :: b ∧ ∀ x ∈ a, p x = false := by
  constructor
  · exact eq_append_of_cutFirst?
  · rintro ⟨c, hc, rfl, ha⟩
    exact cutFirst?_append ha hc b

theorem cutLast?_eq_some_iff :
    cutLast? p cs = some (a, b) ↔ ∃ c, p c = true ∧ cs = a ++ c :: b ∧ ∀ x ∈ b, p x = false := by
  have hreverse : cutLast? p cs = some (a, b) ↔ cutFirst? p cs.reverse = some (b.reverse, a.reverse) := by
    simp only [cutLast?, Option.map_eq_some_iff, Prod.exists, Prod.mk.injEq, List.reverse_eq_iff]
    constructor
    · rintro ⟨_, _, hcut, rfl, rfl⟩
      exact hcut
    · intro hcut
      exact ⟨_, _, hcut, rfl, rfl⟩
  rw [hreverse, cutFirst?_eq_some_iff]
  simp [List.reverse_eq_iff]

theorem cutLast?_eq_none_iff : cutLast? p cs = none ↔ ∀ x ∈ cs, p x = false := by
  simp [cutLast?, cutFirst?_eq_none_iff]

theorem forall_beq_eq_false_iff : (∀ x ∈ cs, (x == d) = false) ↔ d ∉ cs := by
  constructor
  · intro h hmem
    simpa using h d hmem
  · rintro h x hx
    exact beq_eq_false_iff_ne.2 fun heq => h (heq ▸ hx)

/-! ### At the ends -/

theorem dropPrefix?_eq_some_iff {ps : List Char} : dropPrefix? ps cs = some b ↔ cs = ps ++ b := by
  induction ps generalizing cs with
  | nil => simp [dropPrefix?]
  | cons q ps ih =>
    cases cs with
    | nil => simp [dropPrefix?]
    | cons x cs =>
      by_cases hx : q = x
      · simp [dropPrefix?, hx, ih]
      · simp [dropPrefix?, hx, Ne.symm hx]

theorem isSome_dropPrefix? {ps : List Char} : (dropPrefix? ps cs).isSome = true ↔ ps <+: cs := by
  simp only [Option.isSome_iff_exists, dropPrefix?_eq_some_iff, List.prefix_iff_exists_eq_append]

theorem dropSuffix?_eq_some_iff {post : List Char} : dropSuffix? post cs = some a ↔ cs = a ++ post := by
  simp only [dropSuffix?, Option.map_eq_some_iff, dropPrefix?_eq_some_iff, List.reverse_eq_iff,
    List.reverse_append, List.reverse_reverse]
  grind

theorem isSome_dropSuffix? {post : List Char} : (dropSuffix? post cs).isSome = true ↔ post <:+ cs := by
  rw [dropSuffix?, Option.isSome_map, isSome_dropPrefix?, List.reverse_prefix]

/-! ### Somewhere -/

theorem occurs_iff {part : List Char} : occurs part cs = true ↔ part <:+: cs := by
  induction cs with
  | nil => simp [occurs]
  | cons x cs ih => simp [occurs, ih, List.infix_cons_iff]

/-! ### Between all such characters -/

theorem splitAt_ne_nil (p : Char → Bool) (cs : List Char) : splitAt p cs ≠ [] := by
  cases cs with
  | nil => simp [splitAt]
  | cons x cs =>
    unfold splitAt
    split
    · simp
    · split <;> simp

/-- A text without marks in front of one is the first part. -/
theorem splitAt_append (ha : ∀ x ∈ a, p x = false) (hc : p c = true) (b : List Char) :
    splitAt p (a ++ c :: b) = a :: splitAt p b := by
  induction a with
  | nil => simp [splitAt, hc]
  | cons x a ih =>
    have hx := ha x (by simp)
    have ih := ih fun y hy => ha y (by simp [hy])
    simp [splitAt, hx, ih]

/-- The first part, and each other part behind the mark that was in front of it. -/
theorem eq_append_of_splitAt {w : List Char} {ws : List (List Char)}
    (h : splitAt (· == d) cs = w :: ws) : cs = w ++ ws.flatMap (d :: ·) := by
  induction cs generalizing w ws with
  | nil =>
    simp only [splitAt, List.cons.injEq, List.nil_eq] at h
    obtain ⟨rfl, rfl⟩ := h
    rfl
  | cons x cs ih =>
    unfold splitAt at h
    cases hr : splitAt (· == d) cs with
    | nil => exact absurd hr (splitAt_ne_nil _ _)
    | cons v vs =>
      rw [hr] at h
      split at h
      · next hx =>
        have hx : x = d := by simpa using hx
        simp only [List.cons.injEq, List.nil_eq] at h
        obtain ⟨rfl, rfl⟩ := h
        simp [ih hr, hx]
      · simp only [List.cons.injEq] at h
        obtain ⟨rfl, rfl⟩ := h
        simp [ih hr]

/-- No part holds a mark. -/
theorem mem_of_mem_splitAt {w : List Char} (hw : w ∈ splitAt p cs) (hc : c ∈ w) :
    c ∈ cs ∧ p c = false := by
  induction cs generalizing w with
  | nil =>
    obtain rfl : w = [] := by simpa [splitAt] using hw
    simp at hc
  | cons x cs ih =>
    unfold splitAt at hw
    split at hw
    · rcases List.mem_cons.1 hw with rfl | hw
      · simp at hc
      · obtain ⟨hmem, hp⟩ := ih hw hc
        exact ⟨by simp [hmem], hp⟩
    · next hx =>
      cases hr : splitAt p cs with
      | nil => exact absurd hr (splitAt_ne_nil _ _)
      | cons v vs =>
        rw [hr] at hw ih
        rcases List.mem_cons.1 hw with rfl | hw
        · rcases List.mem_cons.1 hc with rfl | hc
          · exact ⟨by simp, by simpa using hx⟩
          · obtain ⟨hmem, hp⟩ := ih (by simp) hc
            exact ⟨by simp [hmem], hp⟩
        · obtain ⟨hmem, hp⟩ := ih (List.mem_cons_of_mem v hw) hc
          exact ⟨by simp [hmem], hp⟩

private theorem ne_nil_of_splitAt_cons {v : List Char} {vs : List (List Char)}
    (h : splitAt p cs = v :: vs) (hne : cs ≠ []) (hhead : ∀ x ∈ cs.head?, p x = false) : v ≠ [] := by
  cases cs with
  | nil => exact absurd rfl hne
  | cons x cs =>
    unfold splitAt at h
    have hx := hhead x rfl
    simp only [hx, Bool.false_eq_true, if_false] at h
    split at h
    · simp only [List.cons.injEq] at h
      simp [← h.1]
    · simp only [List.cons.injEq] at h
      simp [← h.1]

private theorem ne_nil_of_mem_tail {v w : List Char} {vs : List (List Char)}
    (h : splitAt (· == d) cs = v :: vs) (hlast : cs.getLast? ≠ some d)
    (hocc : occurs [d, d] cs = false) (hw : w ∈ vs) : w ≠ [] := by
  induction cs generalizing v vs with
  | nil =>
    simp only [splitAt, List.cons.injEq, List.nil_eq] at h
    simp [h.2] at hw
  | cons x cs ih =>
    simp only [occurs, Bool.or_eq_false_iff] at hocc
    have hlast' : cs.getLast? ≠ some d := by
      intro he
      simp [List.getLast?_cons, he] at hlast
    cases hr : splitAt (· == d) cs with
    | nil => exact absurd hr (splitAt_ne_nil _ _)
    | cons u us =>
      unfold splitAt at h
      rw [hr] at h
      split at h
      · next hx =>
        obtain rfl : x = d := by simpa using hx
        simp only [List.cons.injEq] at h
        obtain ⟨-, rfl⟩ := h
        rcases List.mem_cons.1 hw with rfl | hw
        · apply ne_nil_of_splitAt_cons hr
          · rintro rfl
            simp at hlast
          · intro y hy
            cases cs with
            | nil => simp at hy
            | cons z cs =>
              obtain rfl : z = y := by simpa using hy
              have hz : x ≠ z := by simpa [List.isPrefixOf] using hocc.1
              simpa using hz.symm
        · exact ih hr hlast' hocc.2 hw
      · simp only [List.cons.injEq] at h
        obtain ⟨-, rfl⟩ := h
        exact ih hr hlast' hocc.2 hw

/-- A part is empty only at one of the ends or between two marks that follow each other. -/
theorem ne_nil_of_mem_splitAt {w : List Char} (hw : w ∈ splitAt (· == d) cs) (hne : cs ≠ [])
    (hhead : cs.head? ≠ some d) (hlast : cs.getLast? ≠ some d)
    (hocc : occurs [d, d] cs = false) : w ≠ [] := by
  cases hr : splitAt (· == d) cs with
  | nil => exact absurd hr (splitAt_ne_nil _ _)
  | cons v vs =>
    rw [hr] at hw
    rcases List.mem_cons.1 hw with rfl | hw
    · apply ne_nil_of_splitAt_cons hr hne
      intro x hx
      have : x ≠ d := by
        rintro rfl
        exact hhead hx
      simpa using this
    · exact ne_nil_of_mem_tail hr hlast hocc hw

end Mailroom.Text
