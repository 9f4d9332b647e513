import Mailroom.Mime.TransferEncoding

/-! Texts as lines. Whatever a text holds, what is written of it for transfer consists of lines that end in
a carriage return and a line feed, and holds no other line feeds. -/
namespace Mailroom.Mime

def IsInline (cs : List Char) : Prop := ∀ c ∈ cs, c ≠ '\r' ∧ c ≠ '\n'

instance (cs : List Char) : Decidable (IsInline cs) :=
  decidable_of_iff ((cs.all fun c => c != '\r' && c != '\n') = true) (by simp [IsInline])

def joinLines (ls : List (List Char)) : List Char := ls.flatMap (· ++ ['\r', '\n'])

/-- The text consists of these lines, of which the last one is not ended. -/
structure HasLines (cs : List Char) (ls : List (List Char)) : Prop where
  join : joinLines ls = cs ++ ['\r', '\n']
  noFeed : ∀ l ∈ ls, '\n' ∉ l

variable {a b cs rest l : List Char} {ls ks : List (List Char)}

@[simp] theorem isInline_nil : IsInline [] := by simp [IsInline]

@[simp] theorem isInline_append : IsInline (a ++ b) ↔ IsInline a ∧ IsInline b :=
  List.forall_mem_append

@[simp] theorem isInline_cons {c : Char} : IsInline (c :: cs) ↔ (c ≠ '\r' ∧ c ≠ '\n') ∧ IsInline cs :=
  List.forall_mem_cons

@[simp] theorem isInline_spaces (n : Nat) : IsInline (List.replicate n ' ') := by
  intro c hc
  rw [List.eq_of_mem_replicate hc]
  decide

/-- Characters of a kind that leaves out those of a line end. -/
theorem isInline_of_forall {p : Char → Bool} (h : ∀ c ∈ cs, p c = true) (hreturn : p '\r' = false)
    (hfeed : p '\n' = false) : IsInline cs := by
  intro c hc
  constructor
  · rintro rfl
    exact absurd (h _ hc) (by simp [hreturn])
  · rintro rfl
    exact absurd (h _ hc) (by simp [hfeed])

theorem IsInline.mono (h : IsInline b) (hsub : a ⊆ b) : IsInline a :=
  fun c hc => h c (hsub hc)

theorem IsInline.noFeed (h : IsInline cs) : '\n' ∉ cs := fun hmem => (h _ hmem).2 rfl

/-! ### Lines -/

@[simp] theorem joinLines_nil : joinLines [] = [] := rfl

@[simp] theorem joinLines_cons : joinLines (l :: ls) = l ++ '\r' :: '\n' :: joinLines ls := by
  simp [joinLines]

@[simp] theorem joinLines_append : joinLines (ls ++ ks) = joinLines ls ++ joinLines ks :=
  List.flatMap_append

namespace HasLines

theorem single (h : '\n' ∉ cs) : HasLines cs [cs] := ⟨by simp, by simpa using h⟩

/-- Whole lines in front of a text. -/
theorem append (hls : ∀ l ∈ ls, '\n' ∉ l) (h : HasLines rest ks) :
    HasLines (joinLines ls ++ rest) (ls ++ ks) := by
  refine ⟨by rw [joinLines_append, h.join, List.append_assoc], ?_⟩
  rw [List.forall_mem_append]
  exact ⟨hls, h.noFeed⟩

theorem cons (hl : '\n' ∉ l) (h : HasLines rest ls) : HasLines (l ++ '\r' :: '\n' :: rest) (l :: ls) := by
  simpa using h.append (List.forall_mem_singleton.2 hl)

end HasLines

def IsLined (cs : List Char) : Prop := ∃ ls, HasLines cs ls

private theorem isLined_of_noFeed (h : '\n' ∉ cs) : IsLined cs := ⟨_, .single h⟩

theorem IsLined.cons (hl : '\n' ∉ l) : IsLined rest → IsLined (l ++ '\r' :: '\n' :: rest)
  | ⟨_, h⟩ => ⟨_, h.cons hl⟩

/-! ### Base64 -/

private theorem digit_ne_lineEnd (n : Nat) : Base64.digit n ≠ '\r' ∧ Base64.digit n ≠ '\n' := by
  have hsmall : ∀ n < 64, Base64.digit n ≠ '\r' ∧ Base64.digit n ≠ '\n' := by decide
  by_cases hn : n < 64
  · exact hsmall n hn
  · have hslash : Base64.digit n = '/' := by
      unfold Base64.digit
      rw [if_neg (by omega), if_neg (by omega), if_neg (by omega), if_neg (by omega)]
    rw [hslash]
    decide

theorem isInline_encode (bytes : List UInt8) : IsInline (Base64.encode bytes) := by
  fun_induction Base64.encode bytes with
  | case1 a b c r ih => simp [digit_ne_lineEnd, ih]
  | case2 a b => simp [digit_ne_lineEnd]
  | case3 a => simp [digit_ne_lineEnd]
  | case4 => exact isInline_nil

theorem isLined_cutLines (fuel : Nat) (h : '\n' ∉ cs) : IsLined (TransferEncoding.cutLines fuel cs) := by
  induction fuel generalizing cs with
  | zero => exact isLined_of_noFeed h
  | succ fuel ih =>
    unfold TransferEncoding.cutLines
    split
    · exact isLined_of_noFeed h
    · simp only [List.append_assoc, List.cons_append, List.nil_append]
      exact (ih fun hmem => h (List.mem_of_mem_drop hmem)).cons fun hmem => h (List.mem_of_mem_take hmem)

/-! ### Quoted text -/

namespace QuotedPrintable

private theorem isInline_escape (b : UInt8) : IsInline (escape b) := by
  have hdigit : ∀ n < 16, (Nat.digitChar n).toUpper ≠ '\r' ∧ (Nat.digitChar n).toUpper ≠ '\n' := by
    decide
  have hhigh := hdigit (b.toNat / 16) (by have := b.toNat_lt; omega)
  have hlow := hdigit (b.toNat % 16) (by omega)
  simpa [escape] using ⟨hhigh, hlow⟩

/-- No byte ends a line but those of a line end. -/
private theorem isInline_unit (b : UInt8) (bytes : List UInt8) : IsInline (unit b bytes) := by
  have hseen : ∀ n < 127, 32 < n → Char.ofNat n ≠ '\r' ∧ Char.ofNat n ≠ '\n' := by decide
  unfold unit
  split
  · exact isInline_escape b
  · split
    · next hblank =>
      split
      · exact isInline_escape b
      · rcases (by simpa using hblank : b = 9 ∨ b = 32) with rfl | rfl
        · simp
        · simp
    · split
      · next hrange =>
        obtain ⟨hlow, hhigh⟩ : 33 ≤ b ∧ b ≤ 126 := by simpa using hrange
        rw [UInt8.le_iff_toNat_le] at hlow hhigh
        simpa using hseen _ (Nat.lt_succ_of_le hhigh) hlow
      · exact isInline_escape b

/-- The piece does not end a line of its own accord. -/
def Piece.IsInline : Piece → Prop
  | .unit cs => Mime.IsInline cs
  | .lineEnd => True

private theorem isInline_pieces (bytes : List UInt8) : ∀ p ∈ pieces bytes, p.IsInline := by
  fun_induction pieces bytes with
  | case1 => simp
  | case2 r ih => exact List.forall_mem_cons.2 ⟨trivial, ih⟩
  | case3 b r _ ih => exact List.forall_mem_cons.2 ⟨isInline_unit b r, ih⟩

/-- Pieces are laid out in lines, behind what stands on the line already. -/
private theorem isLined_layOut (pre : List Char) (column : Nat) {ps : List Piece}
    (hps : ∀ p ∈ ps, p.IsInline) (hpre : '\n' ∉ pre) (hlast : '\n' ∉ l) :
    IsLined (pre ++ layOut l column ps) := by
  induction ps generalizing pre l column with
  | nil => exact isLined_of_noFeed (by simp [layOut, hpre, hlast])
  | cons p ps ih =>
    obtain ⟨hp, hrest⟩ := List.forall_mem_cons.1 hps
    have hline : '\n' ∉ pre ++ l := by simp [hpre, hlast]
    cases p with
    | lineEnd =>
      have hnext := ih (l := []) [] 0 hrest (by simp) (by simp)
      simpa [layOut] using hnext.cons hline
    | unit u =>
      have hu : '\n' ∉ u := IsInline.noFeed hp
      simp only [layOut]
      split
      · rw [← List.append_assoc]
        exact ih _ _ hrest hline hu
      · split
        · have hmark : '\n' ∉ pre ++ ['='] := by simp [hpre]
          simpa [softBreak] using (ih l (l.length + u.length) hrest hlast hu).cons hmark
        · have hmark : '\n' ∉ pre ++ l ++ ['='] := by simp [hpre, hlast]
          have hnext := ih [] u.length hrest (by simp) hu
          simpa [softBreak] using hnext.cons hmark

theorem isLined_encode (bytes : List UInt8) : IsLined (encode bytes) :=
  isLined_layOut [] 0 (isInline_pieces bytes) (by simp) (by simp)

end QuotedPrintable

/-! ### Text as it is -/

/-- Lines are ended behind what stands on the line already, which ends in a carriage return if one comes
before. -/
theorem isLined_endLines (pre : List Char) (afterReturn : Bool) (hpre : '\n' ∉ pre)
    (hreturn : afterReturn = true → ∃ start, pre = start ++ ['\r']) :
    IsLined (pre ++ TransferEncoding.endLines afterReturn cs) := by
  induction cs generalizing pre afterReturn with
  | nil => exact isLined_of_noFeed (by simpa [TransferEncoding.endLines] using hpre)
  | cons c cs ih =>
    by_cases hc : c = '\n'
    · subst hc
      have hrest := ih [] false (by simp) (by simp)
      cases afterReturn with
      | false => simpa [TransferEncoding.endLines] using hrest.cons hpre
      | true =>
        obtain ⟨start, rfl⟩ := hreturn rfl
        have hstart : '\n' ∉ start := fun hmem => hpre (List.mem_append_left _ hmem)
        simpa [TransferEncoding.endLines] using hrest.cons hstart
    · have hreturn' : (c == '\r') = true → ∃ start, pre ++ [c] = start ++ ['\r'] :=
        fun h => ⟨pre, by rw [eq_of_beq h]⟩
      have hrest := ih (pre ++ [c]) (c == '\r') (by simp [hpre, Ne.symm hc]) hreturn'
      simpa [TransferEncoding.endLines, hc] using hrest

/-- However a text is written for transfer, that consists of lines. -/
theorem isLined_apply (encoding : TransferEncoding) (text : List Char) : IsLined (encoding.apply text) := by
  cases encoding with
  | sevenBit => exact isLined_endLines [] false (by simp) nofun
  | quotedPrintable => exact QuotedPrintable.isLined_encode _
  | base64 => exact isLined_cutLines _ (isInline_encode _).noFeed

end Mailroom.Mime
