import Mailroom.Proofs.Entries
import Mailroom.Proofs.Json.Strings

/-! Objects of strings that are laid out over several lines and read back. -/
namespace Mailroom.Json

open Text (newLine)

variable {c : Char} {r : List Char} {p : Position}

/-! ### Between the tokens -/

private theorem skipWhile_append {spaces : List Char}
    (hspaces : ∀ c ∈ spaces, Cursor.isSpace c = true)
    (hc : Cursor.isSpace c = false) (r : List Char) (p : Position) :
    ∃ q, Cursor.skipWhile Cursor.isSpace (spaces ++ c :: r) p = ⟨c :: r, q⟩ := by
  induction spaces generalizing p with
  | nil => exact ⟨p, by simp [Cursor.skipWhile, hc]⟩
  | cons d spaces ih =>
    obtain ⟨q, hq⟩ := ih (fun e he => hspaces e (by simp [he])) (p.after d)
    exact ⟨q, by simp [Cursor.skipWhile, hspaces d (by simp), hq]⟩

private theorem isSpace_of_mem_newLine {width level : Nat} :
    ∀ d ∈ (newLine width level).toList, Cursor.isSpace d = true := by
  intro d hd
  rw [newLine, String.toList_ofList] at hd
  rcases List.mem_cons.1 hd with rfl | hd
  · rfl
  · rw [List.eq_of_mem_replicate hd]
    rfl

private theorem skipSpaces_newLine (level : Nat) (hc : Cursor.isSpace c = false) (r : List Char)
    (p : Position) :
    ∃ q, Cursor.skipSpaces ⟨(newLine 2 level).toList ++ c :: r, p⟩ = ⟨c :: r, q⟩ :=
  skipWhile_append isSpace_of_mem_newLine hc r p

theorem skipSpaces_of_not_isSpace (hc : Cursor.isSpace c = false) :
    Cursor.skipSpaces ⟨c :: r, p⟩ = ⟨c :: r, p⟩ := by
  simp [Cursor.skipSpaces, Cursor.skipWhile, hc]

def comma (first : Bool) : List Char := if first then [] else [',']

/-- The key of an entry, with the colon behind it. -/
theorem reads_key {blanks : List Char} (hblanks : ∀ d ∈ blanks, Cursor.isSpace d = true) (first : Bool)
    (key : String) (r : List Char) (p : Position) :
    ∃ q q' q'', moreEntries first ⟨comma first ++ (blanks ++ '"' :: (unopened key ++ ':' :: r)), p⟩ =
        .ok (true, ⟨unopened key ++ ':' :: r, q⟩) ∧
      readString ⟨unopened key ++ ':' :: r, q⟩ = .ok (key, ⟨':' :: r, q'⟩) ∧
      readColon ⟨':' :: r, q'⟩ = .ok ⟨r, q''⟩ := by
  have hskip := skipWhile_append hblanks (c := '"') rfl (unopened key ++ ':' :: r)
  have hmore : ∃ q, moreEntries first ⟨comma first ++ (blanks ++ '"' :: (unopened key ++ ':' :: r)), p⟩ =
      .ok (true, ⟨unopened key ++ ':' :: r, q⟩) := by
    cases first with
    | true =>
      obtain ⟨q, hq⟩ := hskip p
      refine ⟨q.after '"', ?_⟩
      simp only [comma, if_true, List.nil_append, moreEntries, Cursor.skipSpaces, hq]
      rfl
    | false =>
      obtain ⟨q, hq⟩ := hskip (p.after ',')
      have hcomma : Cursor.isSpace ',' = false := rfl
      have hnext (cs : List Char) : Cursor.next ⟨',' :: cs, p⟩ = ⟨cs, p.after ','⟩ := rfl
      refine ⟨q.after '"', ?_⟩
      simp only [comma, Bool.false_eq_true, if_false, List.singleton_append, moreEntries,
        skipSpaces_of_not_isSpace hcomma, hnext]
      simp only [Cursor.skipSpaces, hq]
      rfl
  obtain ⟨q, hmore⟩ := hmore
  obtain ⟨q', hkey⟩ := takes_readString key (':' :: r) q
  exact ⟨q, q', q'.after ':', hmore, hkey, rfl⟩

def separator (first : Bool) (level : Nat) : List Char :=
  (if first then [] else [',']) ++ (newLine 2 level).toList

private theorem moreEntries_end (first : Bool) (level : Nat) (r : List Char) (p : Position) :
    ∃ q, moreEntries first ⟨(newLine 2 level).toList ++ '\x7d' :: r, p⟩ = .ok (false, ⟨'\x7d' :: r, q⟩) := by
  obtain ⟨q, hq⟩ := skipSpaces_newLine level (c := '\x7d') rfl r p
  refine ⟨q, ?_⟩
  simp only [moreEntries, hq]

/-! ### Entries -/

def unopenedEntry (key s : String) : List Char :=
  unopened key ++ ':' :: ' ' :: '"' :: unopened s

section
variable {fuel depth : Nat}

theorem takes_string (fuel depth : Nat) (s : String) :
    Takes (readValueFrom (fuel + 1) depth) (' ' :: '"' :: unopened s) (.string s) := by
  intro r p
  have hskip : Cursor.skipSpaces ⟨' ' :: '"' :: (unopened s ++ r), p⟩ =
    ⟨'"' :: (unopened s ++ r), p.after ' '⟩ := rfl
  obtain ⟨q, hq⟩ := takes_readString s r ((p.after ' ').after '"')
  have hnext : Cursor.next ⟨'"' :: (unopened s ++ r), p.after ' '⟩ =
    ⟨unopened s ++ r, (p.after ' ').after '"'⟩ := rfl
  refine ⟨q, ?_⟩
  simp only [List.cons_append, readValueFrom, hskip, readScalar, hnext, hq, bind, Except.bind]
  rfl

/-- One entry is read, whatever its value and the blanks before its key. -/
theorem readEntriesFrom_step {v : Json} {blanks text : List Char}
    (hblanks : ∀ d ∈ blanks, Cursor.isSpace d = true) (htext : Takes (readValueFrom fuel depth) text v)
    (first : Bool) (done : List (String × Json)) (key : String) (r : List Char) (p : Position) :
    ∃ q, readEntriesFrom (fuel + 1) depth first done
        ⟨comma first ++ (blanks ++ '"' :: (unopened key ++ ':' :: (text ++ r))), p⟩ =
      readEntriesFrom fuel depth false ((key, v) :: done) ⟨r, q⟩ := by
  obtain ⟨q1, q2, q3, hmore, hkey, hcolon⟩ := reads_key hblanks first key (text ++ r) p
  obtain ⟨q4, hvalue⟩ := htext r q3
  refine ⟨q4, ?_⟩
  rw [readEntriesFrom, hmore]
  simp only [bind, Except.bind, if_true, hkey, hcolon, hvalue]

private theorem readEntriesFrom_entry (fuel depth : Nat) (first : Bool) (level : Nat)
    (done : List (String × Json)) (key s : String) (r : List Char) (p : Position) :
    ∃ q, readEntriesFrom (fuel + 2) depth first done
        ⟨separator first level ++ '"' :: (unopenedEntry key s ++ r), p⟩ =
      readEntriesFrom (fuel + 1) depth false ((key, .string s) :: done) ⟨r, q⟩ := by
  have htext : separator first level ++ '"' :: (unopenedEntry key s ++ r) =
      comma first ++ ((newLine 2 level).toList ++
        '"' :: (unopened key ++ ':' :: ((' ' :: '"' :: unopened s) ++ r))) := by
    simp only [separator, comma, unopenedEntry, List.append_assoc, List.cons_append]
  rw [htext]
  exact readEntriesFrom_step isSpace_of_mem_newLine (takes_string fuel depth s) first done key r p

end

def stringObject (es : List (String × String)) : List (String × Json) :=
  es.map fun (key, s) => (key, .string s)

def entriesText (first : Bool) (level : Nat) : List (String × String) → List Char
  | [] => []
  | (key, s) :: es => separator first level ++ '"' :: (unopenedEntry key s ++ entriesText false level es)

private theorem readEntriesFrom_entriesText {fuel : Nat} (es : List (String × String))
    (h : es.length < fuel) (depth : Nat) (first : Bool) (level : Nat)
    (done : List (String × Json)) (r : List Char) (p : Position) :
    ∃ q, readEntriesFrom fuel depth first done
        ⟨entriesText first (level + 1) es ++ ((newLine 2 level).toList ++ '\x7d' :: r), p⟩ =
      .ok (done.reverse ++ stringObject es, ⟨'\x7d' :: r, q⟩) := by
  obtain ⟨fuel, rfl⟩ : ∃ n, fuel = n + 1 := ⟨fuel - 1, by omega⟩
  induction es generalizing fuel first done p with
  | nil =>
    obtain ⟨q, hq⟩ := moreEntries_end first level r p
    refine ⟨q, ?_⟩
    rw [readEntriesFrom, entriesText, List.nil_append, hq]
    simp only [bind, Except.bind, stringObject, List.map_nil, List.append_nil]
    rfl
  | cons e es ih =>
    obtain ⟨key, s⟩ := e
    obtain ⟨fuel, rfl⟩ : ∃ n, fuel = n + 1 := ⟨fuel - 1, by simp at h; omega⟩
    obtain ⟨q, hq⟩ := readEntriesFrom_entry fuel depth first (level + 1) done key s
      (entriesText false (level + 1) es ++ ((newLine 2 level).toList ++ '\x7d' :: r)) p
    obtain ⟨q', hq'⟩ := ih false ((key, .string s) :: done) q fuel (by simpa using h)
    refine ⟨q', ?_⟩
    simp only [entriesText, List.append_assoc, List.cons_append] at hq ⊢
    rw [hq, hq', List.reverse_cons, List.append_assoc]
    rfl

private theorem length_le_length_entriesText (first : Bool) (level : Nat)
    (es : List (String × String)) :
    es.length ≤ (entriesText first level es).length := by
  induction es generalizing first with
  | nil => exact Nat.le_refl 0
  | cons e es ih =>
    have htail := ih false
    simp only [entriesText, List.length_append, List.length_cons]
    omega

/-! ### Whole objects -/

/-- What the printer puts behind the first entry. -/
private theorem toList_prettyEntries (level : Nat) (es : List (String × String)) :
    (prettyEntries level (stringObject es)).toList = entriesText false level es := by
  induction es with
  | nil => rfl
  | cons e es ih =>
    obtain ⟨key, s⟩ := e
    have hcons : stringObject ((key, s) :: es) = (key, .string s) :: stringObject es := rfl
    simp only [hcons, prettyEntries, prettyAt, String.toList_append, toList_quoted, ih, entriesText, separator,
      unopenedEntry, Bool.false_eq_true, if_false, List.append_assoc, List.cons_append]
    rfl

private theorem toList_prettyAt_cons (level : Nat) (e : String × String)
    (es : List (String × String)) :
    (prettyAt level (.object (stringObject (e :: es)))).toList =
      '\x7b' :: (entriesText true (level + 1) (e :: es) ++ ((newLine 2 level).toList ++ ['\x7d'])) := by
  obtain ⟨key, s⟩ := e
  have hcons : stringObject ((key, s) :: es) = (key, .string s) :: stringObject es := rfl
  simp only [hcons, prettyAt, String.toList_append, toList_quoted, toList_prettyEntries, entriesText, separator,
    unopenedEntry, if_true, List.nil_append, List.append_assoc, List.cons_append]
  rfl

section
variable {fuel depth : Nat} (hdepth : 1 < depth)
include hdepth

private theorem readValueFrom_empty (fuel : Nat) (r : List Char) (p : Position) :
    ∃ q, readValueFrom (fuel + 2) depth ⟨'\x7b' :: '\x7d' :: r, p⟩ = .ok (.object [], ⟨r, q⟩) := by
  have hspace : Cursor.isSpace '\x7b' = false := rfl
  have hentries : readEntriesFrom (fuel + 1) (depth - 1) true [] ⟨'\x7d' :: r, p.after '\x7b'⟩ =
    .ok ([], ⟨'\x7d' :: r, p.after '\x7b'⟩) := rfl
  have hnext : Cursor.next ⟨'\x7b' :: '\x7d' :: r, p⟩ = ⟨'\x7d' :: r, p.after '\x7b'⟩ := rfl
  refine ⟨(p.after '\x7b').after '\x7d', ?_⟩
  rw [readValueFrom, skipSpaces_of_not_isSpace hspace]
  simp only [if_neg (Nat.not_le.2 hdepth), hnext, hentries, bind, Except.bind]
  rfl

private theorem readValueFrom_entriesText (es : List (String × String)) (h : es.length < fuel)
    (level : Nat) (r : List Char) (p : Position) :
    ∃ q, readValueFrom (fuel + 1) depth
        ⟨'\x7b' :: (entriesText true (level + 1) es ++ ((newLine 2 level).toList ++ '\x7d' :: r)), p⟩ =
      .ok (.object (stringObject es), ⟨r, q⟩) := by
  obtain ⟨q, hq⟩ := readEntriesFrom_entriesText es h (depth - 1) true level [] r (p.after '\x7b')
  have hspace : Cursor.isSpace '\x7b' = false := rfl
  have hnext (cs : List Char) : Cursor.next ⟨'\x7b' :: cs, p⟩ = ⟨cs, p.after '\x7b'⟩ := rfl
  refine ⟨q.after '\x7d', ?_⟩
  rw [readValueFrom, skipSpaces_of_not_isSpace hspace]
  simp only [if_neg (Nat.not_le.2 hdepth), hnext, hq, bind, Except.bind]
  rfl

/-- An object of strings is read with its entries as they were written. -/
theorem takes_readValue (level : Nat) (es : List (String × String)) :
    Takes (readValue depth) (prettyAt level (.object (stringObject es))).toList
      (.object (stringObject es)) := by
  intro r p
  cases es with
  | nil =>
    have htext : (prettyAt level (.object (stringObject []))).toList = ['\x7b', '\x7d'] := by
      simp [stringObject, prettyAt]
    rw [htext]
    exact readValueFrom_empty hdepth _ r p
  | cons e es =>
    have hlength := length_le_length_entriesText true (level + 1) (e :: es)
    rw [readValue, toList_prettyAt_cons]
    simp only [List.cons_append, List.append_assoc, List.nil_append]
    apply readValueFrom_entriesText hdepth
    simp only [List.length_cons, List.length_append] at hlength ⊢
    omega

end

private theorem sortedEntries_stringObject (done : List (String × Json))
    (es : List (String × String)) (h : Entries.InOrder (done ++ stringObject es)) :
    sortedEntries done (stringObject es) = done ++ stringObject es := by
  induction es generalizing done with
  | nil => simp [stringObject, sortedEntries]
  | cons e es ih =>
    obtain ⟨key, s⟩ := e
    have hcons : stringObject ((key, s) :: es) = (key, .string s) :: stringObject es := rfl
    have hlt : ∀ d ∈ done, d.1 < key :=
      fun d hd => (List.pairwise_append.1 h).2.2 d hd (key, .string s) (by simp [hcons])
    have hsorted : sorted (.string s) = .string s := by simp [sorted]
    rw [hcons, List.append_cons] at h
    rw [hcons, sortedEntries, hsorted, Entries.insert_of_forall_lt hlt, ih _ h, List.append_assoc]
    rfl

/-- An object of strings in key order is read as it was written. -/
theorem ofText_pretty {es : List (String × String)} (h : Entries.InOrder es) :
    ofText (pretty (.object (stringObject es)) ++ "\n") = .ok (.object (stringObject es)) := by
  have horder : Entries.InOrder ([] ++ stringObject es) := List.pairwise_map.2 h
  have hdepth : 1 < maxDepth := by decide
  obtain ⟨q, hq⟩ := takes_readValue hdepth 0 es ['\n'] {}
  have hstart : Cursor.start (pretty (.object (stringObject es)) ++ "\n") =
      ⟨(prettyAt 0 (.object (stringObject es))).toList ++ ['\n'], {}⟩ := by
    rw [Cursor.start, String.toList_append]
    rfl
  have hend : readEnd ⟨['\n'], q⟩ = .ok () := rfl
  simp only [ofText, readWhole, hstart, hq, hend, bind, Except.bind, pure, Except.pure, sorted]
  rw [sortedEntries_stringObject [] es horder, List.nil_append]

end Mailroom.Json
