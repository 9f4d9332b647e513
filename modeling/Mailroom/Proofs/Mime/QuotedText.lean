import Mailroom.Proofs.Mime.Dotted

/-! Texts between quotation marks, and what a reader of headers makes of them. -/
namespace Mailroom.Mime.MailboxList

def fitsQuotes : List Char → Bool
  | [] => true
  | '\\' :: c :: r => isEscapable c && fitsQuotes r
  | c :: r => (isSpacing c || isQuotable c) && fitsQuotes r

def unescape : List Char → List Char
  | [] => []
  | '\\' :: c :: r => c :: unescape r
  | c :: r => c :: unescape r

theorem mem_of_mem_unescape {c : Char} {cs : List Char} (h : c ∈ unescape cs) : c ∈ cs := by
  fun_induction unescape cs with
  | case1 => exact h
  | case2 d r ih =>
    rcases List.mem_cons.1 h with rfl | h
    · simp
    · simp [ih h]
  | case3 d r _ ih =>
    rcases List.mem_cons.1 h with rfl | h
    · simp
    · simp [ih h]

theorem length_unescape_le (cs : List Char) : (unescape cs).length ≤ cs.length := by
  fun_induction unescape cs with
  | case1 => simp
  | case2 d r ih =>
    simp only [List.length_cons]
    omega
  | case3 d r _ ih =>
    simp only [List.length_cons]
    omega

theorem fitsQuotes_cons {c : Char} (hc : c ≠ '\\') (r : List Char) :
    fitsQuotes (c :: r) = ((isSpacing c || isQuotable c) && fitsQuotes r) := by
  rw [fitsQuotes]
  rintro d r rfl
  exact absurd rfl hc

theorem isBlank_of_isSpacing {c : Char} (h : isSpacing c = true) : Text.isBlank c = true := by
  simp only [isSpacing, Bool.or_eq_true, beq_iff_eq] at h
  rcases h with rfl | rfl
  · rfl
  · rfl

section
variable {s t inner rest : List Char}

theorem spacing_append (hs : ∀ c ∈ s, isSpacing c = true) (ht : ∀ c ∈ t.head?, isSpacing c = false) :
    spacing (s ++ t) = some (s.take 1, t) := by
  have htail : spacing t = some ([], t) := spacing_of_head ht
  simp only [spacing, takeSpacing, Option.some.injEq, Prod.mk.injEq] at htail ⊢
  rw [List.takeWhile_append_of_pos hs, List.dropWhile_append_of_pos hs]
  obtain ⟨htake, hdrop⟩ := htail
  refine ⟨?_, hdrop⟩
  cases s with
  | nil => exact htake
  | cons c s => rfl

private theorem quotedContent_cons {c : Char} (h : isQuotable c = true) (r : List Char) :
    quotedContent (c :: r) = some ([c], r) := by
  unfold quotedContent
  split
  · next he =>
    cases he
    exact absurd h (by decide)
  · next he =>
    cases he
    simp [h]
  · next he => cases he

private theorem isSpacing_of_isQuotable {c : Char} (h : isQuotable c = true) :
    isSpacing c = false := by
  rw [Bool.eq_false_iff]
  intro hs
  simp only [isSpacing, Bool.or_eq_true, beq_iff_eq] at hs
  rcases hs with rfl | rfl
  · exact absurd h (by decide)
  · exact absurd h (by decide)

/-- Reading goes on until the text `t`, which it cannot enter; `s` is spacing that has been passed and
not yet been kept. -/
private theorem manyFrom_quotedContent (ht : quotedContent t = none)
    (hb : ∀ c ∈ t.head?, Text.isBlank c = false) (hs : ∀ c ∈ s, isSpacing c = true)
    (h : fitsQuotes inner = true) {fuel : Nat} (hf : inner.length ≤ fuel) :
    ∃ y r, manyFrom (both spacing quotedContent) fuel (s ++ (inner ++ t)) = (y, r) ∧
      r.dropWhile Text.isBlank = t ∧
      (s = [] → (∀ c ∈ inner, isSpacing c = false) → y = unescape inner) := by
  have hstop : ∀ c ∈ t.head?, isSpacing c = false := by
    intro c hc
    rw [Bool.eq_false_iff]
    intro hc'
    exact absurd (isBlank_of_isSpacing hc') (by simp [hb c hc])
  fun_induction fitsQuotes inner generalizing s fuel with
  | case1 =>
    refine ⟨[], s ++ t, ?_, ?_, fun _ _ => rfl⟩
    · cases fuel with
      | zero => rfl
      | succ fuel => simp [manyFrom, both, spacing_append hs hstop, ht]
    · rw [List.dropWhile_append_of_pos fun c hc => isBlank_of_isSpacing (hs c hc)]
      cases t with
      | nil => rfl
      | cons c t => simp [hb c rfl]
  | case2 c r ih =>
    simp only [Bool.and_eq_true] at h
    cases fuel with
    | zero => simp at hf
    | succ fuel =>
      have hlen : r.length ≤ fuel := by
        simp only [List.length_cons] at hf
        omega
      obtain ⟨y, rest, hread, hrest, hy⟩ := ih (s := []) (by simp) h.2 hlen
      have hspacing := spacing_append (t := '\\' :: c :: (r ++ t)) hs (by simp [isSpacing])
      refine ⟨s.take 1 ++ c :: y, rest, ?_, hrest, ?_⟩
      · simp only [List.nil_append] at hread
        simp [manyFrom, both, hspacing, quotedContent, h.1, hread]
      · rintro rfl hnone
        simp only [List.take_nil, List.nil_append, unescape]
        rw [hy rfl fun d hd => hnone d (by simp [hd])]
  | case3 c r hc ih =>
    simp only [Bool.and_eq_true, Bool.or_eq_true] at h
    simp only [List.length_cons] at hf
    rcases h.1 with hsp | hq
    · -- a space is not taken yet: it is passed along with the spacing in front of what follows
      have hs' : ∀ d ∈ s ++ [c], isSpacing d = true := by
        intro d hd
        rcases List.mem_append.1 hd with hd | hd
        · exact hs d hd
        · obtain rfl : d = c := by simpa using hd
          exact hsp
      have hlen : r.length ≤ fuel := by omega
      obtain ⟨y, rest, hread, hrest, -⟩ := ih hs' h.2 hlen
      refine ⟨y, rest, by simpa using hread, hrest, ?_⟩
      intro _ hnone
      simp [hnone c (by simp)] at hsp
    · cases fuel with
      | zero => omega
      | succ fuel =>
        have hlen : r.length ≤ fuel := by omega
        obtain ⟨y, rest, hread, hrest, hy⟩ := ih (s := []) (by simp) h.2 hlen
        have hspacing := spacing_append (t := c :: (r ++ t)) hs (by
          simp [isSpacing_of_isQuotable hq])
        refine ⟨s.take 1 ++ c :: y, rest, ?_, hrest, ?_⟩
        · simp only [List.nil_append] at hread
          simp [manyFrom, both, hspacing, quotedContent_cons hq, hread]
        · rintro rfl hnone
          rw [unescape, hy rfl fun d hd => hnone d (by simp [hd])]
          · rfl
          · exact hc

private theorem many_quotedContent (h : fitsQuotes inner = true) (ht : quotedContent t = none)
    (hb : ∀ c ∈ t.head?, Text.isBlank c = false) :
    ∃ y r, many (both spacing quotedContent) (inner ++ t) = some (y, r) ∧
      r.dropWhile Text.isBlank = t ∧
      ((∀ c ∈ inner, isSpacing c = false) → y = unescape inner) := by
  have hlen : inner.length ≤ (inner ++ t).length := by simp
  obtain ⟨y, r, hread, hrest, hy⟩ := manyFrom_quotedContent (s := []) ht hb (by simp) h hlen
  exact ⟨y, r, congrArg some hread, hrest, hy rfl⟩

/-- A text that fits between quotation marks is taken, and nothing behind the marks. -/
theorem quotedString_of_fitsQuotes (h : fitsQuotes inner = true) (rest : List Char) :
    ∃ y, quotedString ('"' :: (inner ++ '"' :: rest)) = some (y, rest) ∧
      ((∀ c ∈ inner, isSpacing c = false) → y = unescape inner) := by
  obtain ⟨y, r, hread, hrest, hy⟩ := many_quotedContent (t := '"' :: rest) h
    (by simp [quotedContent, isQuotable]) (by simp [Text.isBlank])
  refine ⟨y, ?_, hy⟩
  simp [quotedString, hread, hrest]

/-- No text with a backslash in front of what cannot be escaped is taken. -/
theorem quotedString_eq_none_of_escape (h : fitsQuotes inner = true) {c : Char}
    (hc : isEscapable c = false) (rest : List Char) :
    quotedString ('"' :: (inner ++ '\\' :: c :: rest)) = none := by
  obtain ⟨y, r, hread, hrest, -⟩ := many_quotedContent (t := '\\' :: c :: rest) h
    (by simp [quotedContent, hc]) (by simp [Text.isBlank])
  simp [quotedString, hread, hrest]

end

end Mailroom.Mime.MailboxList
