import Mailroom.Json.Printer
import Mailroom.Json.Reader

/-! Strings that are written in JSON and read back from it. -/
namespace Mailroom.Json

variable {c : Char} {r : List Char} {p : Position}

/-- A reading takes a text for a value, whatever comes after it and wherever it stands. -/
def Takes {α : Type} (reading : Cursor → Except Fault (α × Cursor)) (text : List Char) (x : α) : Prop :=
  ∀ r p, ∃ q, reading ⟨text ++ r, p⟩ = .ok (x, ⟨r, q⟩)

private theorem hexDigit?_hexDigit {n : Nat} (h : n < 16) :
    Text.hexDigit? (hexDigit n) = some n := by
  have hall : ∀ n : Fin 16, Text.hexDigit? (hexDigit n) = some n.val := by decide
  exact hall ⟨n, h⟩

/-- The four digits that a control character is escaped with. -/
private theorem takes_readHex {n : Nat} (h : n < 0x20) :
    Takes readHex ['0', '0', hexDigit (n / 16), hexDigit (n % 16)] n := by
  intro r p
  have hzero : Text.hexDigit? '0' = some 0 := by decide
  have hhigh : Text.hexDigit? (hexDigit (n / 16)) = some (n / 16) := hexDigit?_hexDigit (by omega)
  have hlow : Text.hexDigit? (hexDigit (n % 16)) = some (n % 16) := hexDigit?_hexDigit (by omega)
  have hvalue : ((0 * 16 + 0) * 16 + n / 16) * 16 + n % 16 = n := by omega
  simp only [readHex, List.cons_append, List.nil_append, hzero, hhigh, hlow, hvalue]
  exact ⟨_, rfl⟩

/-- A number that is no half of a surrogate pair stands for a character by itself. -/
private theorem readEscape_of_readHex {n : Nat} {next : Cursor} (hn : n < 0xD800)
    (h : readHex ⟨r, p.after 'u'⟩ = .ok (n, next)) :
    readEscape ⟨'u' :: r, p⟩ = .ok (Char.ofNat n, next) := by
  have hnotlow : (0xDC00 ≤ n && n ≤ 0xDFFF) = false := by
    simp only [Bool.and_eq_false_iff, decide_eq_false_iff_not]
    omega
  have hnothigh : (n < 0xD800 || n > 0xDBFF) = true := by simp [hn]
  have hnext : Cursor.next ⟨'u' :: r, p⟩ = ⟨r, p.after 'u'⟩ := rfl
  simp only [readEscape, hnext, h, bind, Except.bind, hnotlow, hnothigh, if_true]
  rfl

/-- What comes after the backslash of an escape. -/
theorem takes_readEscape {es : List Char} (h : escape c = '\\' :: es) : Takes readEscape es c := by
  intro r p
  unfold escape at h
  split at h
  case h_8 hslash _ _ _ _ _ =>
    split at h
    · next hcontrol =>
      obtain rfl := List.tail_eq_of_cons_eq h
      obtain ⟨q, hq⟩ := takes_readHex hcontrol r (p.after 'u')
      have hread := readEscape_of_readHex (by omega) hq
      rw [Char.ofNat_toNat] at hread
      exact ⟨q, hread⟩
    · exact absurd (List.head_eq_of_cons_eq h) hslash
  all_goals
    obtain rfl := List.tail_eq_of_cons_eq h
    exact ⟨_, rfl⟩

/-- A character is written as it is, unless a backslash comes first. -/
private theorem escape_cases (c : Char) :
    (∃ es, escape c = '\\' :: es) ∨
      escape c = [c] ∧ c ≠ '"' ∧ c ≠ '\\' ∧ ¬c.toNat < 0x20 := by
  unfold escape
  split
  case h_8 hquote hslash _ _ _ _ _ =>
    split
    · exact .inl ⟨_, rfl⟩
    · next hcontrol => exact .inr ⟨rfl, hquote, hslash, hcontrol⟩
  all_goals exact .inl ⟨_, rfl⟩

section
variable {fuel : Nat} {done : List Char}

private theorem readStringFrom_of_plain (hquote : c ≠ '"') (hslash : c ≠ '\\')
    (hcontrol : ¬c.toNat < 0x20) :
    readStringFrom (fuel + 1) done ⟨c :: r, p⟩ = readStringFrom fuel (c :: done) ⟨r, p.after c⟩ := by
  rw [readStringFrom]
  split
  · next h => exact absurd h (by simp)
  · next h => exact absurd (List.head_eq_of_cons_eq h) hquote
  · next h => exact absurd (List.head_eq_of_cons_eq h) hslash
  · next h =>
    obtain rfl := List.head_eq_of_cons_eq h
    rw [if_neg hcontrol]
    rfl

private theorem readStringFrom_escape (fuel : Nat) (done : List Char) (c : Char) (r : List Char)
    (p : Position) :
    ∃ q, readStringFrom (fuel + 1) done ⟨escape c ++ r, p⟩ = readStringFrom fuel (c :: done) ⟨r, q⟩ := by
  rcases escape_cases c with ⟨es, hes⟩ | ⟨hplain, hquote, hslash, hcontrol⟩
  · obtain ⟨q, hq⟩ := takes_readEscape hes r (p.after '\\')
    have hnext : Cursor.next ⟨'\\' :: (es ++ r), p⟩ = ⟨es ++ r, p.after '\\'⟩ := rfl
    refine ⟨q, ?_⟩
    simp only [hes, List.cons_append, readStringFrom, hnext, hq, bind, Except.bind]
  · refine ⟨p.after c, ?_⟩
    rw [hplain, List.singleton_append]
    exact readStringFrom_of_plain hquote hslash hcontrol

private theorem readStringFrom_flatMap_escape (cs : List Char) (h : cs.length < fuel)
    (done r : List Char) (p : Position) :
    ∃ q, readStringFrom fuel done ⟨cs.flatMap escape ++ '"' :: r, p⟩ =
      .ok (.ofList (done.reverse ++ cs), ⟨r, q⟩) := by
  -- Each character takes one step, be it escaped or not, and the closing mark takes another.
  obtain ⟨fuel, rfl⟩ : ∃ n, fuel = n + 1 := ⟨fuel - 1, by omega⟩
  induction cs generalizing fuel done p with
  | nil =>
    rw [List.append_nil]
    exact ⟨_, rfl⟩
  | cons c cs ih =>
    obtain ⟨fuel, rfl⟩ : ∃ n, fuel = n + 1 := ⟨fuel - 1, by simp at h; omega⟩
    obtain ⟨q, hq⟩ := readStringFrom_escape (fuel + 1) done c (cs.flatMap escape ++ '"' :: r) p
    obtain ⟨q', hq'⟩ := ih (c :: done) q fuel (by simpa using h)
    refine ⟨q', ?_⟩
    rw [List.flatMap_cons, List.append_assoc, hq, hq', List.reverse_cons, List.append_assoc]
    rfl

end

private theorem length_le_length_flatMap_escape (cs : List Char) :
    cs.length ≤ (cs.flatMap escape).length := by
  induction cs with
  | nil => exact Nat.le_refl 0
  | cons c cs ih =>
    have hpos : 0 < (escape c).length := by
      rcases escape_cases c with ⟨es, hes⟩ | ⟨hplain, -⟩
      · simp [hes]
      · simp [hplain]
    rw [List.flatMap_cons, List.length_append, List.length_cons]
    omega

def unopened (s : String) : List Char := s.toList.flatMap escape ++ ['"']

theorem toList_quoted (s : String) : (quoted s).toList = '"' :: unopened s := by
  rw [quoted, String.toList_ofList, unopened]

/-- A string that was written is read. -/
theorem takes_readString (s : String) : Takes readString (unopened s) s := by
  intro r p
  have hlength := length_le_length_flatMap_escape s.toList
  have hfuel : s.toList.length < (unopened s ++ r).length + 1 := by
    simp only [unopened, List.length_append]
    omega
  obtain ⟨q, hq⟩ := readStringFrom_flatMap_escape s.toList hfuel [] r p
  refine ⟨q, ?_⟩
  rw [List.reverse_nil, List.nil_append, String.ofList_toList] at hq
  simp only [readString, unopened, List.append_assoc, List.singleton_append] at hq ⊢
  exact hq

end Mailroom.Json
