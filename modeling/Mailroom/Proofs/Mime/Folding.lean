import Mathlib.Data.List.Forall2
import Mailroom.Proofs.Message.Composition
import Mailroom.Proofs.Mime.Envelope
import Mailroom.Proofs.Mime.Lines

/-! The fields of a header. Whatever a value is made of, no line ends in it but where the next line begins
with a space. -/
namespace Mailroom.Mime

/-- A line ends in the text only where the next one begins with a space. -/
inductive IsFolded : List Char → Prop
  | line {cs : List Char} (h : IsInline cs) : IsFolded cs
  | fold {first rest : List Char} (h : IsInline first) (hrest : IsFolded rest) :
      IsFolded (first ++ '\r' :: '\n' :: ' ' :: rest)

theorem IsFolded.append {a b : List Char} (ha : IsFolded a) (hb : IsFolded b) : IsFolded (a ++ b) := by
  induction ha with
  | line ha =>
    cases hb with
    | line hb => exact .line (isInline_append.2 ⟨ha, hb⟩)
    | fold hfirst hrest =>
      rw [← List.append_assoc]
      exact .fold (isInline_append.2 ⟨ha, hfirst⟩) hrest
  | fold hfirst _ ih =>
    simp only [List.append_assoc, List.cons_append]
    exact .fold hfirst ih

/-! ### Writing a value -/

namespace Writer

variable {w : Writer} {cs : List Char} {c : Char}

theorem finish_eq (w : Writer) : w.finish = w.text ++ List.replicate w.waiting ' ' := rfl

private theorem isFolded_finish (h : IsFolded w.text) : IsFolded w.finish :=
  h.append (.line (isInline_spaces _))

/-- It is enough that the text is folded once the spaces are written: a new line may be under way. -/
private theorem isFolded_write (h : IsFolded w.finish) (hcs : IsInline cs) :
    IsFolded (w.write cs).text :=
  h.append (.line hcs)

private theorem isFolded_newLine (h : IsFolded w.text) (hw : 0 < w.waiting) :
    IsFolded w.newLine.finish := by
  obtain ⟨n, hn⟩ := Nat.exists_eq_succ_of_ne_zero (Nat.pos_iff_ne_zero.1 hw)
  have hend : IsFolded ('\r' :: '\n' :: ' ' :: List.replicate n ' ') :=
    .fold isInline_nil (.line (isInline_spaces n))
  simpa [finish_eq, newLine, hn, List.replicate_succ] using h.append hend

private theorem isFolded_freshLine (h : IsFolded w.text) : IsFolded w.freshLine.finish := by
  unfold freshLine
  simp only
  split
  · have hspace : IsFolded w.space.text := h
    exact isFolded_newLine hspace (Nat.succ_pos _)
  · next hw => exact isFolded_newLine h (Nat.pos_of_ne_zero hw)

private theorem isFolded_makeRoom (h : IsFolded w.text) : IsFolded (w.makeRoom c).finish := by
  unfold makeRoom
  split
  · exact isFolded_finish h
  · exact isFolded_freshLine h

private theorem isFolded_writeWord (h : IsFolded w.text) (hcs : IsInline cs) :
    IsFolded (w.writeWord cs).text := by
  unfold writeWord
  split
  · exact h
  · split
    · next hbreak =>
      have hw : 0 < w.waiting := by
        simp only [Bool.and_eq_true, decide_eq_true_eq] at hbreak
        exact hbreak.1.2
      exact isFolded_write (isFolded_newLine h hw) hcs
    · exact isFolded_write (isFolded_finish h) hcs

private theorem isFolded_foldFrom {word : List Char} (h : IsFolded w.text) (hword : IsInline word)
    (hcs : IsInline cs) : IsFolded (foldFrom word w cs).text := by
  fun_induction foldFrom word w cs with
  | case1 word w => exact isFolded_writeWord h (hword.mono (by simp))
  | case2 word w r ih =>
    have hwritten := isFolded_writeWord h (hword.mono (by simp) : IsInline word.reverse)
    exact ih hwritten isInline_nil (isInline_cons.1 hcs).2
  | case3 word w c r _ ih =>
    obtain ⟨hc, hr⟩ := isInline_cons.1 hcs
    exact ih h (isInline_cons.2 ⟨hc, hword⟩) hr

theorem isFolded_fold (h : IsFolded w.text) (hcs : IsInline cs) : IsFolded (w.fold cs).text :=
  isFolded_foldFrom h isInline_nil hcs

private theorem isFolded_foldEscaped {part : List Char} (h : IsFolded w.text)
    (hpart : IsInline part) (hcs : IsInline cs) : IsFolded (foldEscaped part w cs).text := by
  fun_induction foldEscaped part w cs with
  | case1 part w => exact isFolded_fold h (hpart.mono (by simp))
  | case2 part w c r _ ih =>
    obtain ⟨hc, hr⟩ := isInline_cons.1 hcs
    have hbefore := isFolded_fold h (hpart.mono (by simp) : IsInline part.reverse)
    have hmark : IsFolded ((w.fold part.reverse).fold ['\\']).text := isFolded_fold hbefore (by simp)
    exact ih (isFolded_fold hmark (by simpa using hc)) isInline_nil hr
  | case3 part w c r _ ih =>
    obtain ⟨hc, hr⟩ := isInline_cons.1 hcs
    exact ih h (isInline_cons.2 ⟨hc, hpart⟩) hr

/-- What an encoded word holds does not matter. -/
private theorem isFolded_writeEncodedWord (h : IsFolded w.finish) (cs : List Char) :
    IsFolded (w.writeEncodedWord cs).text := by
  have hstart : IsInline wordStart := by decide +kernel
  have hend : IsInline wordEnd := by decide +kernel
  have hword : IsInline (Base64.encodeText cs) := isInline_encode (Text.utf8 cs)
  exact isFolded_write h (isInline_append.2 ⟨isInline_append.2 ⟨hstart, hword⟩, hend⟩)

private theorem isFolded_encodeFrom (word : List Char) (h : IsFolded w.finish) (cs : List Char) :
    IsFolded (encodeFrom word w cs).text := by
  fun_induction encodeFrom word w cs with
  | case1 word w => exact isFolded_writeEncodedWord h word
  | case2 word w c r _ ih => exact ih h
  | case3 word w c r _ ih => exact ih (isFolded_makeRoom (isFolded_writeEncodedWord h word))

theorem isFolded_encode (h : IsFolded w.text) (cs : List Char) : IsFolded (w.encode cs).text := by
  unfold encode
  split
  · exact h
  · apply isFolded_encodeFrom
    split
    · exact isFolded_makeRoom h
    · exact isFolded_finish h

private theorem isFolded_encodeGroup (h : IsFolded w.text) (group : List Char) :
    IsFolded (w.encodeGroup group).text :=
  isFolded_encode h _

theorem isInline_of_isHeaderChar (h : cs.all isHeaderChar = true) : IsInline cs :=
  isInline_of_forall (List.all_eq_true.1 h) (by decide) (by decide)

theorem isFolded_writeWords (group : List Char) (h : IsFolded w.text) (words : List (List Char)) :
    IsFolded (writeWords group w words).text := by
  fun_induction writeWords group w words with
  | case1 group w => exact isFolded_encodeGroup h group
  | case2 group w word r hword ih =>
    exact ih (isFolded_fold (isFolded_encodeGroup h group) (isInline_of_isHeaderChar hword))
  | case3 group w word r _ ih => exact ih h

private theorem isFolded_afterName (name : String) :
    IsFolded (afterName name).text := .line isInline_nil

/-- A name that is not encoded has only characters that can stand in quotation marks. -/
private theorem isInline_of_nameStyle (h : nameStyle cs ≠ .encoded) : IsInline cs := by
  have hchars : ∀ c ∈ cs, (isPlainNameChar c || c == ' ' || needsBackslash c) = true := by
    intro c hc
    unfold nameStyle at h
    split at h
    · next hall => simp [List.all_eq_true.1 hall c hc]
    · split at h
      · next hall =>
        have hchar := List.all_eq_true.1 hall c hc
        simp only [hchar, Bool.true_or]
      · split at h
        · next hall => exact List.all_eq_true.1 hall c hc
        · exact absurd rfl h
  exact isInline_of_forall hchars (by decide) (by decide)

private theorem isFolded_writeName (h : IsFolded w.text) (name : List Char) :
    IsFolded (w.writeName name).text := by
  have hquote : IsFolded (w.write ['"']).text := isFolded_write (isFolded_finish h) (by simp)
  unfold writeName
  cases hstyle : nameStyle name with
  | plain => exact isFolded_write (isFolded_finish h) (isInline_of_nameStyle (by simp [hstyle]))
  | quoted =>
    have hname : IsInline name := isInline_of_nameStyle (by simp [hstyle])
    exact isFolded_write (isFolded_finish (isFolded_fold hquote hname)) (by simp)
  | escaped =>
    have hname : IsInline name := isInline_of_nameStyle (by simp [hstyle])
    exact isFolded_write (isFolded_finish (isFolded_foldEscaped hquote isInline_nil hname)) (by simp)
  | encoded => exact isFolded_encode h name

end Writer

/-! ### Values of fields -/

theorem isFolded_freeText (name text : String) : IsFolded (freeText name text) :=
  Writer.isFolded_finish (Writer.isFolded_writeWords [] (Writer.isFolded_afterName name) _)

private theorem isInline_text {a : Address} (h : a.WellFormed) : IsInline a.text.toList := by
  have hseen : ∀ c ∈ a.text.toList, (!Text.isBlank c) = true := by simpa using h.noBlank
  exact isInline_of_forall hseen (by decide) (by decide)

theorem isFolded_senderValue {m : Mailbox} (h : m.address.WellFormed) : IsFolded (senderValue m) := by
  have hstart := Writer.isFolded_afterName "From"
  have haddress := isInline_text h
  unfold senderValue
  simp only
  split
  · exact Writer.isFolded_finish (Writer.isFolded_write (Writer.isFolded_finish hstart) haddress)
  · next name _ =>
    have hname : IsFolded ((Writer.afterName "From").writeName name.toList).space.text :=
      Writer.isFolded_writeName hstart _
    have hangle : IsInline ('<' :: (m.address.text.toList ++ ['>'])) := by
      rw [isInline_cons, isInline_append]
      exact ⟨by decide, haddress, by simp⟩
    exact Writer.isFolded_finish (Writer.isFolded_write (Writer.isFolded_finish hname) hangle)

private theorem isInline_addressList {as : List Address} (h : ∀ a ∈ as, a.WellFormed) :
    IsInline (addressList as) := by
  induction as with
  | nil => simp [addressList]
  | cons a as ih =>
    obtain ⟨ha, has⟩ := List.forall_mem_cons.1 h
    cases as with
    | nil =>
      rw [addressList_singleton]
      exact isInline_text ha
    | cons b as =>
      rw [addressList_cons_cons, isInline_append, isInline_cons, isInline_cons]
      exact ⟨isInline_text ha, by decide, by decide, ih has⟩

/-! ### Fields -/

def fieldLine (name : String) (value : List Char) : List Char := name.toList ++ [':', ' '] ++ value

def IsFieldName (name : String) : Prop :=
  IsInline name.toList ∧ name.toList.head?.any Char.isAlpha = true

instance (name : String) : Decidable (IsFieldName name) :=
  inferInstanceAs (Decidable (_ ∧ _))

def Continues (line : List Char) : Prop := line.head? = some ' ' ∨ line.head? = some '\t'

/-- The lines are those of one field: the first one names it, and the others continue it. -/
def IsField (name : String) (ls : List (List Char)) : Prop :=
  (∀ l ∈ ls, IsInline l) ∧ ∃ value more, ls = fieldLine name value :: more ∧ ∀ l ∈ more, Continues l

private theorem isField_fieldLine {name : String} {value : List Char}
    (h : IsInline (fieldLine name value)) :
    IsField name [fieldLine name value] :=
  ⟨by simpa using h, value, [], rfl, by simp⟩

private theorem exists_isField_of_mem {names : List String} {fields : List (List (List Char))}
    {l : List Char} (h : List.Forall₂ IsField names fields) (hl : l ∈ fields.flatten) :
    ∃ name ∈ names, ∃ ls, IsField name ls ∧ l ∈ ls := by
  induction h with
  | nil => simp at hl
  | @cons name ls names fields hfield _ ih =>
    rcases List.mem_append.1 (List.flatten_cons ▸ hl) with hl | hl
    · exact ⟨name, List.mem_cons_self, ls, hfield, hl⟩
    · obtain ⟨other, hother, ls, hfield, hl⟩ := ih hl
      exact ⟨other, List.mem_cons_of_mem _ hother, ls, hfield, hl⟩

/-- No line of a field is empty, and none begins with a point. -/
private theorem IsField.head_ne {name : String} {ls : List (List Char)} (h : IsField name ls)
    (hname : IsFieldName name) : ∀ l ∈ ls, l ≠ [] ∧ l.head? ≠ some '.' := by
  obtain ⟨-, value, more, rfl, hmore⟩ := h
  rw [List.forall_mem_cons]
  constructor
  · obtain ⟨c, hhead, hc⟩ : ∃ c, name.toList.head? = some c ∧ c.isAlpha = true := by
      simpa [Option.any_eq_true] using hname.2
    have hline : (fieldLine name value).head? = some c := by
      simp [fieldLine, hhead]
    refine ⟨?_, ?_⟩
    · intro hnil
      simp [hnil] at hline
    · rw [hline]
      rintro hpoint
      obtain rfl := Option.some.inj hpoint
      exact absurd hc (by decide)
  · intro l hl
    rcases hmore l hl with hspace | htab
    · exact ⟨by rintro rfl; simp at hspace, by simp [hspace]⟩
    · exact ⟨by rintro rfl; simp at htab, by simp [htab]⟩

/-- Behind what stands on the first line, a folded value goes on in lines that continue it. -/
private theorem IsFolded.exists_lines {value : List Char} (h : IsFolded value) (pre : List Char)
    (hpre : IsInline pre) :
    ∃ first more, joinLines ((pre ++ first) :: more) = pre ++ value ++ ['\r', '\n'] ∧
      IsInline (pre ++ first) ∧ ∀ l ∈ more, IsInline l ∧ Continues l := by
  induction h generalizing pre with
  | @line cs h => exact ⟨cs, [], by simp, isInline_append.2 ⟨hpre, h⟩, by simp⟩
  | @fold first rest h _ ih =>
    obtain ⟨next, more, hjoin, hnext, hmore⟩ := ih [' '] (by simp)
    refine ⟨first, ([' '] ++ next) :: more, ?_, isInline_append.2 ⟨hpre, h⟩, ?_⟩
    · rw [joinLines_cons, hjoin]
      simp
    · exact List.forall_mem_cons.2 ⟨⟨hnext, .inl rfl⟩, hmore⟩

theorem exists_isField {name : String} {value : List Char} (hname : IsInline name.toList)
    (h : IsFolded value) : ∃ ls, IsField name ls ∧ joinLines ls = headerLine name value := by
  obtain ⟨first, more, hjoin, hfirst, hmore⟩ := h.exists_lines (name.toList ++ [':', ' '])
    (isInline_append.2 ⟨hname, by simp⟩)
  refine ⟨_, ⟨?_, first, more, rfl, fun l hl => (hmore l hl).2⟩, hjoin⟩
  exact List.forall_mem_cons.2 ⟨hfirst, fun l hl => (hmore l hl).1⟩

/-- A field with addresses is there if there are any. -/
private theorem exists_isField_addressLine {name : String} {as : List Address}
    (hname : IsInline name.toList) (h : ∀ a ∈ as, a.WellFormed) :
    ∃ fields, List.Forall₂ IsField (if as = [] then [] else [name]) fields ∧
      joinLines fields.flatten = addressLine name (headerAddresses as) := by
  by_cases has : as = []
  · subst has
    exact ⟨[], .nil, rfl⟩
  · have hheader : (headerAddresses as).isEmpty = false := by
      simpa [headerAddresses_eq_nil_iff] using has
    obtain ⟨ls, hfield, hjoin⟩ := exists_isField hname
      (.line (isInline_addressList (readable_headerAddresses h).wellFormed))
    refine ⟨[ls], ?_, ?_⟩
    · rw [if_neg has]
      exact .cons hfield .nil
    · simpa [addressLine, hheader] using hjoin

/-! ### The content of a letter -/

def opening (m : Message) : List Char :=
  headerLine "From" (senderValue m.sender) ++
  headerLine "Subject" (freeText "Subject" m.subject) ++
  addressLine "To" (headerAddresses m.primary) ++
  addressLine "Cc" (headerAddresses m.cc)

def openingNames (m : Message) : List String :=
  ["From", "Subject"] ++ (if m.primary = [] then [] else ["To"]) ++ if m.cc = [] then [] else ["Cc"]

def encodingOf (m : Message) : TransferEncoding :=
  TransferEncoding.choose (Text.utf8 m.body.text.toList)

def typeLine (f : BodyFormat) : List Char := fieldLine "Content-Type" f.contentType.toList

def encodingLine (encoding : TransferEncoding) : List Char :=
  fieldLine "Content-Transfer-Encoding" encoding.name.toList

def dateLine (date : String) : List Char := fieldLine "Date" date.toList

def closing (m : Message) (f : BodyFormat) (date : String) : List (List (List Char)) :=
  [[typeLine f], [encodingLine (encodingOf m)], [dateLine date]]

def fieldNames (m : Message) : List String :=
  openingNames m ++ ["Content-Type", "Content-Transfer-Encoding", "Date"]

section
variable {m : Message}

private theorem isFieldName_of_mem {name : String} (h : name ∈ fieldNames m) :
    IsFieldName name := by
  have hnames : name ∈
      ["From", "Subject", "To", "Cc", "Content-Type", "Content-Transfer-Encoding", "Date"] := by
    simp only [fieldNames, openingNames, List.mem_append, List.mem_cons, List.not_mem_nil, or_false,
      List.mem_ite_nil_left] at h ⊢
    tauto
  have hall : ∀ name ∈
      ["From", "Subject", "To", "Cc", "Content-Type", "Content-Transfer-Encoding", "Date"],
      IsFieldName name := by decide +kernel
  exact hall name hnames

/-- No line of the fields is empty, and none begins with a point. -/
theorem line_of_mem_fields {fields : List (List (List Char))} {l : List Char}
    (h : List.Forall₂ IsField (fieldNames m) fields) (hl : l ∈ fields.flatten) :
    IsInline l ∧ l ≠ [] ∧ l.head? ≠ some '.' := by
  obtain ⟨name, hname, field, hfield, hl⟩ := exists_isField_of_mem h hl
  exact ⟨hfield.1 l hl, hfield.head_ne (isFieldName_of_mem hname) l hl⟩

theorem exists_fields_opening (h : m.WellFormed) :
    ∃ fields, List.Forall₂ IsField (openingNames m) fields ∧ joinLines fields.flatten = opening m := by
  have hname : ∀ name ∈ ["From", "Subject", "To", "Cc"], IsInline name.toList := by decide +kernel
  obtain ⟨sender, hsender, hjoinSender⟩ :=
    exists_isField (hname "From" (by simp)) (isFolded_senderValue h.sender)
  obtain ⟨subject, hsubject, hjoinSubject⟩ :=
    exists_isField (hname "Subject" (by simp)) (isFolded_freeText "Subject" m.subject)
  obtain ⟨primary, hprimary, hjoinPrimary⟩ :=
    exists_isField_addressLine (hname "To" (by simp)) (h.recipients .primary)
  obtain ⟨cc, hcc, hjoinCc⟩ := exists_isField_addressLine (hname "Cc" (by simp)) (h.recipients .cc)
  have hfront : List.Forall₂ IsField ["From", "Subject"] [sender, subject] :=
    .cons hsender (.cons hsubject .nil)
  refine ⟨[sender, subject] ++ primary ++ cc, List.rel_append (List.rel_append hfront hprimary) hcc, ?_⟩
  simp only [List.flatten_append, joinLines_append, hjoinPrimary, hjoinCc, List.flatten_cons,
    List.flatten_nil, List.append_nil, hjoinSender, hjoinSubject]
  rfl

private theorem isInline_typeLine (f : BodyFormat) : IsInline (typeLine f) := by
  cases f with
  | plain => decide +kernel
  | html => decide +kernel

private theorem isInline_encodingLine (encoding : TransferEncoding) :
    IsInline (encodingLine encoding) := by
  cases encoding with
  | sevenBit => decide +kernel
  | quotedPrintable => decide +kernel
  | base64 => decide +kernel

private theorem isInline_dateLine {date : String} (h : IsInline date.toList) :
    IsInline (dateLine date) := by
  have hname : IsInline "Date: ".toList := by decide +kernel
  exact isInline_append.2 ⟨hname, h⟩

theorem forall₂_isField_closing {f : BodyFormat} {date : String} (hdate : IsInline date.toList) :
    List.Forall₂ IsField ["Content-Type", "Content-Transfer-Encoding", "Date"] (closing m f date) :=
  .cons (isField_fieldLine (isInline_typeLine f)) (.cons (isField_fieldLine (isInline_encodingLine _))
    (.cons (isField_fieldLine (isInline_dateLine hdate)) .nil))

theorem contentOf_eq (m : Message) (date : String) :
    contentOf m date = opening m ++ (typeLine m.body.format ++ '\r' :: '\n' ::
      (encodingLine (encodingOf m) ++ '\r' :: '\n' :: (dateLine date ++ '\r' :: '\n' ::
        ([] ++ '\r' :: '\n' :: (encodingOf m).apply m.body.text.toList)))) := by
  simp [contentOf, headers, opening, headerLine, fieldLine, typeLine, encodingLine, dateLine, encodingOf]

/-- The lines of the content, if those of the first fields and of the text are known. -/
theorem hasLines_contentOf {os bs : List (List Char)} {date : String} (hos : ∀ l ∈ os, '\n' ∉ l)
    (hopening : joinLines os = opening m)
    (hbs : HasLines ((encodingOf m).apply m.body.text.toList) bs) (hdate : IsInline date.toList) :
    HasLines (contentOf m date) (os ++ ((closing m m.body.format date).flatten ++ [] :: bs)) := by
  have hbody := HasLines.cons (isInline_dateLine hdate).noFeed (HasLines.cons isInline_nil.noFeed hbs)
  have hall := HasLines.append hos (HasLines.cons (isInline_typeLine m.body.format).noFeed
    (HasLines.cons (isInline_encodingLine (encodingOf m)).noFeed hbody))
  rw [contentOf_eq, ← hopening]
  exact hall

/-- The lines of the content are those of its fields and of its text. All but the last fields are there
whatever the format and the date are. -/
theorem exists_hasLines_contentOf (h : m.WellFormed) :
    ∃ fields bs, ∀ f date, IsInline date.toList →
      List.Forall₂ IsField (fieldNames m) (fields ++ closing m f date) ∧
        HasLines (contentOf (m.inFormat f) date) ((fields ++ closing m f date).flatten ++ [] :: bs) := by
  obtain ⟨fields, hfields, hopening⟩ := exists_fields_opening h
  obtain ⟨bs, hbs⟩ := isLined_apply (encodingOf m) m.body.text.toList
  refine ⟨fields, bs, fun f date hdate => ⟨List.rel_append hfields (forall₂_isField_closing hdate), ?_⟩⟩
  have hos : ∀ l ∈ fields.flatten, '\n' ∉ l := by
    intro l hl
    obtain ⟨name, -, ls, hfield, hl⟩ := exists_isField_of_mem hfields hl
    exact (hfield.1 l hl).noFeed
  rw [List.flatten_append, List.append_assoc]
  exact hasLines_contentOf (m := m.inFormat f) hos hopening hbs hdate

end

end Mailroom.Mime
