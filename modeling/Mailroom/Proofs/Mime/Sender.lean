import Mailroom.Proofs.Mime.Header
import Mailroom.Proofs.Text.Trimming

/-! The sender on the envelope, who is read from a mailbox with or without a name. -/
namespace Mailroom.Mime

open MailboxList

/-! ### Names -/

def IsBare (cs : List Char) : Prop := ∀ c ∈ cs, isAtomText c = true ∨ isSpacing c = true

def quotedName (name : List Char) : List Char :=
  name.flatMap fun c => if needsBackslash c || c == '\x00' then ['\\', c] else [c]

def writtenName (name : List Char) : List Char :=
  if name.all isBareNameChar then name else '"' :: (quotedName name ++ ['"'])

private theorem isBare_of_isBareNameChar {cs : List Char} (h : cs.all isBareNameChar = true) :
    IsBare cs := by
  intro c hc
  have hchar := List.all_eq_true.1 h c hc
  have hdigit : '0' ≤ c ∧ c ≤ '8' → c.isDigit = true := by
    intro hd
    have hle : '0'.toNat ≤ c.toNat ∧ c.toNat ≤ '8'.toNat := hd
    have h0 : '0'.toNat = 48 := rfl
    have h8 : '8'.toNat = 56 := rfl
    have h9 : '9'.toNat = 57 := rfl
    rw [Char.isDigit_iff_toNat]
    omega
  simp only [isBareNameChar, Bool.or_eq_true, Bool.and_eq_true, decide_eq_true_eq, beq_iff_eq] at hchar
  simp only [isAtomText, isSpacing, Char.isAlphanum, Bool.or_eq_true, decide_eq_true_eq, beq_iff_eq]
  rcases hchar with ((((hc | hc) | hc) | hc) | hc) | hc
  · exact .inr (.inr hc)
  · exact .inr (.inl hc)
  · exact .inl (.inl (.inl (.inl hc)))
  · exact .inl (.inl (.inl (.inr (hdigit hc))))
  · exact .inl (.inr hc)
  · exact .inl (.inl (.inr hc))

section
variable {s name t : List Char}

private def isMark (c : Char) : Prop := c = '"' ∨ c = '.' ∨ c = '@'

private theorem head_of_isBare (hs : IsBare s) : ∀ c ∈ (s ++ '<' :: t).head?, ¬isMark c := by
  intro c hc
  cases s with
  | nil =>
    obtain rfl : '<' = c := by simpa using hc
    simp [isMark]
  | cons d s =>
    obtain rfl : d = c := by simpa using hc
    rintro (rfl | rfl | rfl)
    all_goals exact absurd (hs _ (List.mem_cons_self ..)) (by decide)

/-- A text is spacing, and then what does not begin with spacing. -/
private theorem exists_spacing_append (s : List Char) :
    ∃ front back, s = front ++ back ∧ (∀ c ∈ front, isSpacing c = true) ∧
      ∀ c ∈ back.head?, isSpacing c = false := by
  refine ⟨s.takeWhile isSpacing, s.dropWhile isSpacing, (List.takeWhile_append_dropWhile ..).symm,
    List.all_eq_true.1 (List.all_takeWhile ..), ?_⟩
  intro c hc
  have hnot := List.head?_dropWhile_not isSpacing s
  rw [Option.mem_def.1 hc] at hnot
  exact hnot

/-- In front of an angle bracket, one word of a bare text is taken, or only spacing is left of it. -/
private theorem word_bare (hs : IsBare s) (t : List Char) :
    (∃ x pre post, word (s ++ '<' :: t) = some (x, post ++ '<' :: t) ∧ s = pre ++ post ∧ pre ≠ []) ∨
      (word (s ++ '<' :: t) = none ∧ ∀ c ∈ s, isSpacing c = true) := by
  have hquote : quotedString (s ++ '<' :: t) = none :=
    quotedString_eq_none fun c hc he => head_of_isBare hs c hc (.inl he)
  obtain ⟨front, back, rfl, hall, hhead⟩ := exists_spacing_append s
  have hangle : EndsAtom ('<' :: t) := by simp [EndsAtom, isAtomText]
  cases back with
  | nil =>
    right
    have hspacing := spacing_append (t := '<' :: t) hall (by simp [isSpacing])
    rw [List.append_nil] at hquote ⊢
    exact ⟨by simp [word, either, hquote, atom, both, hspacing, atomText_eq_none hangle], hall⟩
  | cons c back =>
    left
    have hc : isAtomText c = true := by
      rcases hs c (by simp) with hc | hc
      · exact hc
      · simp [hhead c rfl] at hc
    have hatom : IsAtom ((c :: back).takeWhile isAtomText) :=
      ⟨by simp [hc], List.all_eq_true.1 (List.all_takeWhile ..)⟩
    have hends : EndsAtom ((c :: back).dropWhile isAtomText ++ '<' :: t) :=
      endsAtom_dropWhile_append hangle
    have hback : c :: back = (c :: back).takeWhile isAtomText ++ (c :: back).dropWhile isAtomText :=
      (List.takeWhile_append_dropWhile ..).symm
    have hspacing := spacing_append (t := c :: (back ++ '<' :: t)) hall (by simpa using hhead c rfl)
    have htaken := atomText_append hatom hends
    rw [← List.append_assoc, ← hback] at htaken
    refine ⟨front.take 1 ++ (c :: back).takeWhile isAtomText, front ++ (c :: back).takeWhile isAtomText,
      (c :: back).dropWhile isAtomText, ?_, ?_, ?_⟩
    · rw [List.append_assoc, List.cons_append] at hquote ⊢
      rw [List.cons_append] at htaken
      simp only [word, either, hquote, Option.none_or, atom, both, hspacing, htaken,
        Option.bind_eq_bind, Option.bind_some]
      rfl
    · rw [List.append_assoc, ← hback]
    · simp [hc]

private theorem char_point_bare (hs : IsBare s) : char '.' (s ++ '<' :: t) = none := by
  apply char_eq_none
  exact fun c hc he => head_of_isBare hs c hc (.inr (.inl he))

/-- Words of a bare text are taken until only spacing is left of it. -/
private theorem many_bare (hs : IsBare s) (t : List Char) :
    ∃ x post, many (either word (char '.')) (s ++ '<' :: t) = some (x, post ++ '<' :: t) ∧
      ∀ c ∈ post, isSpacing c = true := by
  suffices hfrom : ∀ fuel, s.length ≤ fuel →
      ∃ x post, manyFrom (either word (char '.')) fuel (s ++ '<' :: t) = (x, post ++ '<' :: t) ∧
        ∀ c ∈ post, isSpacing c = true by
    obtain ⟨x, post, hread, hpost⟩ := hfrom (s ++ '<' :: t).length (by simp)
    exact ⟨x, post, congrArg some hread, hpost⟩
  intro fuel hf
  induction fuel generalizing s with
  | zero =>
    obtain rfl : s = [] := by simpa using hf
    exact ⟨[], [], rfl, by simp⟩
  | succ fuel ih =>
    rcases word_bare hs t with ⟨x, pre, post, hword, rfl, hpre⟩ | ⟨hword, hall⟩
    · have hlen := List.length_pos_iff.2 hpre
      simp only [List.length_append] at hf
      obtain ⟨y, rest, hread, hrest⟩ := ih (s := post) (fun c hc => hs c (by simp [hc])) (by omega)
      refine ⟨x ++ y, rest, ?_, hrest⟩
      simp only [manyFrom, either, hword, Option.some_or]
      rw [hread]
    · exact ⟨[], s, by simp [manyFrom, either, hword, char_point_bare hs], hall⟩

/-- A bare name with a space behind it is bare, and so is what is left of it. -/
private theorem isBare_append_space {cs : List Char} (hs : name.all isBareNameChar = true)
    (hcs : ∀ c ∈ cs, c ∈ name) : IsBare (cs ++ [' ']) := by
  intro c hc
  rcases List.mem_append.1 hc with hc | hc
  · exact isBare_of_isBareNameChar hs c (hcs c hc)
  · obtain rfl : c = ' ' := by simpa using hc
    exact .inr rfl

section
variable (hs : name.all isBareNameChar = true) {first : Char} (hfirst : first ∈ name.head?)
  (hspacing : isSpacing first = false)
include hs hfirst hspacing

/-- A bare name is passed. -/
private theorem phrase_bare (t : List Char) :
    ∃ x post, phrase (name ++ ' ' :: '<' :: t) = some (x, post ++ '<' :: t) ∧
      ∀ c ∈ post, isSpacing c = true := by
  have hspace : name ++ ' ' :: '<' :: t = (name ++ [' ']) ++ '<' :: t := by simp
  have hbare := isBare_append_space hs fun _ hc => hc
  rw [hspace]
  rcases word_bare hbare t with ⟨x, pre, post, hword, hsplit, -⟩ | ⟨-, hall⟩
  · obtain ⟨y, rest, hmany, hrest⟩ :=
      many_bare (s := post) (fun c hc => hbare c (by simp [hsplit, hc])) t
    refine ⟨x ++ y, rest, ?_, hrest⟩
    simp only [phrase, both, hword, hmany, Option.bind_eq_bind, Option.bind_some]
    rfl
  · simp [hall first (by simp [List.mem_of_mem_head? hfirst])] at hspacing

/-- A bare name is the beginning of no address. -/
private theorem address_bare (t : List Char) : address (name ++ ' ' :: '<' :: t) = none := by
  have hatom : IsAtom (name.takeWhile isAtomText) := by
    refine ⟨?_, List.all_eq_true.1 (List.all_takeWhile ..)⟩
    cases name with
    | nil => simp at hfirst
    | cons c r =>
      obtain rfl : c = first := by simpa using hfirst
      have hc := (isBare_of_isBareNameChar hs c (by simp)).resolve_right (by simp [hspacing])
      simp [hc]
  have hends : EndsAtom (name.dropWhile isAtomText ++ ' ' :: '<' :: t) :=
    endsAtom_dropWhile_append (by simp [EndsAtom, isAtomText])
  have hmark : ∀ c ∈ (name.dropWhile isAtomText ++ ' ' :: '<' :: t).head?, ¬isMark c := by
    have hbare := isBare_append_space hs fun _ hc =>
      (List.dropWhile_sublist isAtomText (l := name)).subset hc
    simpa using head_of_isBare (t := t) hbare
  have hnone : ∀ w ∈ ([] : List (List Char)), IsAtom w := by simp
  have hlocal := localPart_dotted hatom hnone hends fun c hc he => hmark c hc (.inr (.inl he))
  have hsign : char '@' (name.dropWhile isAtomText ++ ' ' :: '<' :: t) = none :=
    char_eq_none fun c hc he => hmark c hc (.inr (.inr he))
  simp only [dotted, List.flatMap_nil, List.append_nil, ← List.append_assoc,
    List.takeWhile_append_dropWhile] at hlocal
  simp [address, hlocal, hsign]

end

private theorem quotedName_cons (c : Char) (name : List Char) :
    quotedName (c :: name) =
      (if needsBackslash c || c == '\x00' then ['\\', c] else [c]) ++ quotedName name := rfl

/-- Without line breaks and the null character, a name can stand between quotation marks. -/
private theorem fitsQuotes_quotedName (h : ∀ c ∈ name, c ≠ '\n' ∧ c ≠ '\r' ∧ c ≠ '\x00') :
    fitsQuotes (quotedName name) = true := by
  induction name with
  | nil => rfl
  | cons c name ih =>
    have ih := ih fun d hd => h d (by simp [hd])
    obtain ⟨hfeed, hreturn, hnull⟩ := h c (by simp)
    rw [quotedName_cons]
    split
    · next hc =>
      simp only [needsBackslash, hnull, Bool.or_eq_true, beq_iff_eq, or_false] at hc
      rcases hc with rfl | rfl
      · simp [fitsQuotes, ih, isEscapable]
      · simp [fitsQuotes, ih, isEscapable]
    · next hc =>
      simp only [needsBackslash, Bool.or_eq_true, beq_iff_eq, not_or] at hc
      have hne : ∀ d, c ≠ d → c.toNat ≠ d.toNat := fun d hd he => hd (Char.toNat_inj.1 he)
      have hquotable : isSpacing c = true ∨ isQuotable c = true := by
        rw [Classical.or_iff_not_imp_left]
        intro hs
        simp only [isSpacing, Bool.or_eq_true, beq_iff_eq, not_or] at hs
        have hspace := hne _ hs.1
        have htab := hne _ hs.2
        have hfeed := hne _ hfeed
        have hreturn := hne _ hreturn
        have hnull := hne _ hnull
        have hquote := hne _ hc.1.1
        have hslash := hne _ hc.1.2
        simp only [Char.reduceToNat] at hspace htab hfeed hreturn hnull hquote hslash
        simp only [isQuotable, Bool.and_eq_true, decide_eq_true_eq, bne_iff_ne]
        omega
      simp [fitsQuotes_cons hc.1.2, ih, hquotable]

private theorem phrase_quoted (h : ∀ c ∈ name, c ≠ '\n' ∧ c ≠ '\r' ∧ c ≠ '\x00') :
    (∃ x post, phrase ('"' :: (quotedName name ++ '"' :: ' ' :: '<' :: t)) = some (x, post ++ '<' :: t) ∧
      ∀ c ∈ post, isSpacing c = true) ∧
      address ('"' :: (quotedName name ++ '"' :: ' ' :: '<' :: t)) = none := by
  obtain ⟨x, hread, -⟩ := quotedString_of_fitsQuotes (fitsQuotes_quotedName h) (' ' :: '<' :: t)
  obtain ⟨y, post, hmany, hpost⟩ := many_bare (s := [' ']) (by simp [IsBare, isSpacing]) t
  have hword : word ('"' :: (quotedName name ++ '"' :: ' ' :: '<' :: t)) = some (x, ' ' :: '<' :: t) := by
    simp [word, either, hread]
  have hdots : dotAtom ('"' :: (quotedName name ++ '"' :: ' ' :: '<' :: t)) = none :=
    dotAtom_eq_none (by simp [isSpacing]) (by simp [EndsAtom, isAtomText])
  constructor
  · refine ⟨x ++ y, post, ?_, hpost⟩
    simp only [List.cons_append, List.nil_append] at hmany
    simp [phrase, both, hword, hmany]
  · simp [address, MailboxList.localPart, either, hdots, hread, char]

private theorem mailbox_eq_none_of_quote (h : quotedString ('"' :: t) = none) :
    mailbox ('"' :: t) = none := by
  have hdots : dotAtom ('"' :: t) = none :=
    dotAtom_eq_none (by simp [isSpacing]) (by simp [EndsAtom, isAtomText])
  have hspacing : spacing ('"' :: t) = some ([], '"' :: t) := spacing_of_head (by simp [isSpacing])
  have hatom : atomText ('"' :: t) = none := atomText_eq_none (by simp [EndsAtom, isAtomText])
  have hword : word ('"' :: t) = none := by simp [word, either, h, atom, both, hspacing, hatom]
  have hphrase : phrase ('"' :: t) = none := by simp [phrase, both, hword]
  have haddress : address ('"' :: t) = none := by
    simp [address, MailboxList.localPart, either, hdots, h, both, hword]
  have hangle : angleAddress ('"' :: t) = none := by simp [angleAddress, Text.isBlank, char]
  simp [mailbox, hphrase, haddress, hangle]

/-- A null character between quotation marks is behind a backslash, where no reader takes it. -/
private theorem mailbox_of_null (hnull : '\x00' ∈ name) (h : ∀ c ∈ name, c ≠ '\n' ∧ c ≠ '\r')
    (t : List Char) : mailbox ('"' :: (quotedName name ++ t)) = none := by
  obtain ⟨pre, post, rfl, hpre⟩ := List.eq_append_cons_of_mem hnull
  have hfits : fitsQuotes (quotedName pre) = true := by
    apply fitsQuotes_quotedName
    intro c hc
    have hline := h c (by simp [hc])
    refine ⟨hline.1, hline.2, ?_⟩
    rintro rfl
    exact hpre hc
  have hsplit : quotedName (pre ++ '\x00' :: post) ++ t =
      quotedName pre ++ '\\' :: '\x00' :: (quotedName post ++ t) := by
    simp [quotedName]
  rw [hsplit]
  exact mailbox_eq_none_of_quote (quotedString_eq_none_of_escape hfits (by decide) _)

/-! ### The mailbox of a sender -/

private theorem angleAddress_of_spacing {post : List Char} (hpost : ∀ c ∈ post, isSpacing c = true)
    (t : List Char) : angleAddress (post ++ '<' :: t) = angleAddress ('<' :: t) := by
  have hdrop : (post ++ '<' :: t).dropWhile Text.isBlank = '<' :: t := by
    rw [List.dropWhile_append_of_pos fun c hc => isBlank_of_isSpacing (hpost c hc)]
    simp [Text.isBlank]
  simp [angleAddress, hdrop, Text.isBlank]

/-- Between angle brackets, an address is taken exactly if its domain is plain. -/
private theorem angleAddress_text {a : Address} (h : a.WellFormed) :
    angleAddress ('<' :: (a.text.toList ++ ['>'])) =
      if a.hasPlainDomain then some (rawParts a, []) else none := by
  have hdrop : ('<' :: (a.text.toList ++ ['>'])).dropWhile Text.isBlank =
      '<' :: (a.text.toList ++ ['>']) := by
    simp [Text.isBlank]
  have hchar : char '<' ('<' :: (a.text.toList ++ ['>'])) = some (['<'], a.text.toList ++ ['>']) := rfl
  rw [angleAddress, hdrop, hchar]
  cases hd : a.hasPlainDomain with
  | true =>
    have haddress := h.address_append hd ['>'] (by simp [EndsAtom, isAtomText]) (by simp)
    simp only [Option.bind_eq_bind, Option.bind_some, haddress]
    rfl
  | false =>
    simp only [Option.bind_eq_bind, Option.bind_some, Bool.false_eq_true, if_false,
      Option.bind_eq_none_iff]
    rintro ⟨x, r⟩ hread
    obtain ⟨pre, post, hne, hdomain, rfl⟩ := h.eq_append_of_address hd hread
    cases post with
    | nil => exact absurd rfl hne
    | cons c post =>
      have hc : '>' ≠ c := by
        rintro rfl
        exact h.noAngle.2 (by simp [hdomain])
      simp [char, hc]

/-- In front of an angle bracket, a name is passed if it can be written. -/
theorem mailbox_writtenName (hhead : ∃ c ∈ name.head?, Text.isBlank c = false)
    (h : ∀ c ∈ name, c ≠ '\n' ∧ c ≠ '\r') (t : List Char) :
    mailbox (writtenName name ++ ' ' :: '<' :: t) =
      if '\x00' ∈ name then none else angleAddress ('<' :: t) := by
  unfold writtenName
  split
  · next hbare =>
    have hnull : '\x00' ∉ name := by
      intro hc
      exact absurd (List.all_eq_true.1 hbare _ hc) (by decide)
    obtain ⟨first, hfirst, hblank⟩ := hhead
    have hspacing : isSpacing first = false := by
      rw [Bool.eq_false_iff]
      intro hsp
      simp [isBlank_of_isSpacing hsp] at hblank
    obtain ⟨x, post, hphrase, hpost⟩ := phrase_bare hbare hfirst hspacing t
    have haddress := address_bare hbare hfirst hspacing t
    simp [mailbox, hphrase, haddress, angleAddress_of_spacing hpost, hnull]
  · split
    · next hnull =>
      have hmailbox := mailbox_of_null hnull h ('"' :: ' ' :: '<' :: t)
      simpa using hmailbox
    · next hnull =>
      have hquotable : ∀ c ∈ name, c ≠ '\n' ∧ c ≠ '\r' ∧ c ≠ '\x00' := by
        intro c hc
        refine ⟨(h c hc).1, (h c hc).2, ?_⟩
        rintro rfl
        exact hnull hc
      obtain ⟨⟨x, post, hphrase, hpost⟩, haddress⟩ := phrase_quoted (t := t) hquotable
      simp [mailbox, hphrase, haddress, angleAddress_of_spacing hpost]

private theorem plainValue_of_name {m : Mailbox} (h : trimmedName m ≠ []) :
    plainValue m = writtenName (trimmedName m) ++ ' ' :: '<' :: (m.address.text.toList ++ ['>']) := by
  unfold plainValue
  split
  · next hname => exact absurd hname h
  · simp [writtenName, quotedName]

/-- The header of a sender gives back what the address becomes, unless a null character in the name
stops the reader. -/
theorem read?_plainValue {m : Mailbox} (h : m.address.WellFormed)
    (hname : ∀ c ∈ trimmedName m, c ≠ '\n' ∧ c ≠ '\r') :
    read? (plainValue m) =
      if '\x00' ∈ trimmedName m then none else [m.address].mapM Address.reread? := by
  by_cases hempty : trimmedName m = []
  · have hplain : plainValue m = addressList [m.address] := by
      rw [addressList_singleton, plainValue, hempty]
    rw [hplain, hempty]
    exact read?_addressList (by simp) (by simpa using h) (by simp)
  · have hhead : ∃ c ∈ (trimmedName m).head?, Text.isBlank c = false := by
      have hstrip : Text.strip Text.isBlank (trimmedName m) = trimmedName m := Text.strip_strip _ _
      cases hs : trimmedName m with
      | nil => exact absurd hs hempty
      | cons c r =>
        rw [hs] at hstrip
        exact ⟨c, rfl, (Text.strip_eq_self_iff.1 hstrip).1 c rfl⟩
    rw [read?_eq, mailboxesFrom, plainValue_of_name hempty, mailbox_writtenName hhead hname]
    split
    · rfl
    · rw [angleAddress_text h]
      cases hd : m.address.hasPlainDomain with
      | true =>
        have hparts := ofParts?_rawParts h hd
        simp [hparts]
      | false => simp [Address.reread?, hd]

theorem hasUnwritableName_eq_false_iff {m : Mailbox} :
    hasUnwritableName m = false ↔ ∀ c ∈ trimmedName m, c ≠ '\n' ∧ c ≠ '\r' := by
  simp [hasUnwritableName]

/-- The name can be written in front of the address, so that the address can be read back. -/
def HasSafeName (m : Mailbox) : Prop :=
  ∀ c ∈ trimmedName m, c ≠ '\n' ∧ c ≠ '\r' ∧ c ≠ '\x00'

/-- The sender on the envelope is what a header makes of the address, behind a name that is safe. -/
theorem envelopeSender_eq_ok_iff {m : Mailbox} (h : m.address.WellFormed) {a : Address} :
    envelopeSender m = .ok a ↔ HasSafeName m ∧ m.address.reread? = some a := by
  unfold envelopeSender
  cases hline : hasUnwritableName m with
  | true =>
    simp only [if_true, reduceCtorEq, false_iff, not_and]
    intro hsafe
    have hfalse : hasUnwritableName m = false :=
      hasUnwritableName_eq_false_iff.2 fun c hc => ⟨(hsafe c hc).1, (hsafe c hc).2.1⟩
    simp [hline] at hfalse
  | false =>
    have hname := hasUnwritableName_eq_false_iff.1 hline
    rw [read?_plainValue h hname]
    by_cases hnull : '\x00' ∈ trimmedName m
    · have hunsafe : ¬HasSafeName m := fun hsafe => (hsafe _ hnull).2.2 rfl
      simp [hnull, hunsafe]
    · have hsafe : HasSafeName m := by
        intro c hc
        refine ⟨(hname c hc).1, (hname c hc).2, ?_⟩
        rintro rfl
        exact hnull hc
      cases hread : m.address.reread? with
      | none => simp [hnull, hread]
      | some b => simp [hnull, hread, hsafe]

end

end Mailroom.Mime
