import Mailroom.Proofs.Json.Objects
import Mailroom.Proofs.Outcome

/-! Values without numbers that are written on one line and read back. -/
namespace Mailroom.Json

/-- A value without numbers, with at most `n` containers around anything in it. -/
inductive Textual : (n : Nat) → Json → Prop
  | null {n : Nat} : Textual n .null
  | bool {n : Nat} (b : Bool) : Textual n (.bool b)
  | string {n : Nat} (s : String) : Textual n (.string s)
  | array {n : Nat} {items : List Json} (h : ∀ v ∈ items, Textual n v) : Textual (n + 1) (.array items)
  | object {n : Nat} {fields : List (String × Json)} (h : ∀ e ∈ fields, Textual n e.2) :
    Textual (n + 1) (.object fields)

variable {n depth fuel : Nat} {v : Json} {items : List Json} {fields : List (String × Json)}

/-! ### The text -/

def itemsText (first : Bool) : List Json → List Char
  | [] => []
  | v :: items => comma first ++ ((compact v).toList ++ itemsText false items)

/-- What comes after the opening quotation mark of a key, up to the next entry. -/
def unopenedField (key : String) (v : Json) : List Char := unopened key ++ ':' :: (compact v).toList

def fieldsText (first : Bool) : List (String × Json) → List Char
  | [] => []
  | (key, v) :: fields => comma first ++ '"' :: (unopenedField key v ++ fieldsText false fields)

private theorem toList_compactItems (items : List Json) :
    (compactItems items).toList = itemsText true items := by
  induction items with
  | nil => rfl
  | cons v items ih =>
    have hcomma : ",".toList = [','] := rfl
    cases items with
    | nil => simp [compactItems, itemsText, comma]
    | cons w items =>
      have hbehind : itemsText false (w :: items) = ',' :: itemsText true (w :: items) := rfl
      rw [compactItems, itemsText, hbehind, ← ih]
      · simp [comma, hcomma]
      · simp

private theorem toList_compactEntries (fields : List (String × Json)) :
    (compactEntries fields).toList = fieldsText true fields := by
  induction fields with
  | nil => rfl
  | cons e fields ih =>
    obtain ⟨key, v⟩ := e
    have hcolon : ":".toList = [':'] := rfl
    have hcomma : ",".toList = [','] := rfl
    cases fields with
    | nil => simp [compactEntries, fieldsText, unopenedField, comma, toList_quoted, hcolon]
    | cons e fields =>
      have hbehind : fieldsText false (e :: fields) = ',' :: fieldsText true (e :: fields) := rfl
      rw [compactEntries, fieldsText, hbehind, ← ih]
      · simp [unopenedField, comma, toList_quoted, hcolon, hcomma]
      · simp

private theorem toList_compact_array (items : List Json) :
    (compact (.array items)).toList = '[' :: (itemsText true items ++ [']']) := by
  have hopen : "[".toList = ['['] := rfl
  have hclose : "]".toList = [']'] := rfl
  simp [compact, toList_compactItems, hopen, hclose]

theorem toList_compact_object (fields : List (String × Json)) :
    (compact (.object fields)).toList = '\x7b' :: (fieldsText true fields ++ ['\x7d']) := by
  have hopen : "\x7b".toList = ['\x7b'] := rfl
  have hclose : "\x7d".toList = ['\x7d'] := rfl
  simp [compact, toList_compactEntries, hopen, hclose]

theorem length_le_length_fieldsText (first : Bool) (fields : List (String × Json)) :
    fields.length ≤ (fieldsText first fields).length := by
  induction fields generalizing first with
  | nil => exact Nat.le_refl 0
  | cons e fields ih =>
    have hrest := ih false
    simp only [fieldsText, List.length_append, List.length_cons]
    omega

/-- A value can be told from the end of the container that it stands in. -/
theorem Textual.starts (h : Textual n v) :
    ∃ c cs, (compact v).toList = c :: cs ∧ Cursor.isSpace c = false ∧ c ≠ ']' := by
  cases h with
  | null => exact ⟨_, _, rfl, rfl, by decide⟩
  | bool b => cases b <;> exact ⟨_, _, rfl, rfl, by decide⟩
  | string s => exact ⟨_, _, by rw [compact, toList_quoted], rfl, by decide⟩
  | array h => exact ⟨_, _, toList_compact_array _, rfl, by decide⟩
  | object h => exact ⟨_, _, toList_compact_object _, rfl, by decide⟩

/-! ### Between the items -/

variable {c : Char}

private theorem moreItems_comma (hspace : Cursor.isSpace c = false) (hclose : c ≠ ']')
    (first : Bool) (r : List Char) (p : Position) :
    ∃ q, moreItems first ⟨comma first ++ c :: r, p⟩ = .ok (true, ⟨c :: r, q⟩) := by
  cases first with
  | true =>
    refine ⟨p, ?_⟩
    simp only [moreItems, comma, if_true, List.nil_append, skipSpaces_of_not_isSpace hspace]
  | false =>
    have hcomma : Cursor.isSpace ',' = false := rfl
    have hnext : Cursor.next ⟨',' :: c :: r, p⟩ = ⟨c :: r, p.after ','⟩ := rfl
    refine ⟨p.after ',', ?_⟩
    simp only [moreItems, comma, Bool.false_eq_true, if_false, List.singleton_append, Char.reduceEq, imp_self,
      skipSpaces_of_not_isSpace hcomma, hnext, skipSpaces_of_not_isSpace hspace, bne_self_eq_false]
    split
    · next h => cases h
    · next h => exact absurd (List.head_eq_of_cons_eq h) hclose
    · rfl

private theorem moreItems_end (first : Bool) (r : List Char) (p : Position) :
    moreItems first ⟨']' :: r, p⟩ = .ok (false, ⟨']' :: r, p⟩) := rfl

theorem no_blanks : ∀ d ∈ ([] : List Char), Cursor.isSpace d = true := fun _ hd => nomatch hd

private theorem moreEntries_close (first : Bool) (r : List Char) (p : Position) :
    moreEntries first ⟨'\x7d' :: r, p⟩ = .ok (false, ⟨'\x7d' :: r, p⟩) := rfl

/-! ### Reading -/

/-- A value that is told from the end of a container, and read if there is fuel for its text. -/
structure IsTaken (depth : Nat) (v : Json) : Prop where
  starts : ∃ c cs, (compact v).toList = c :: cs ∧ Cursor.isSpace c = false ∧ c ≠ ']'
  takes : ∀ fuel, 2 * (compact v).toList.length ≤ fuel + 1 →
    Takes (readValueFrom (fuel + 1) depth) (compact v).toList v

private theorem IsTaken.length_pos (h : IsTaken depth v) : 0 < (compact v).toList.length := by
  obtain ⟨c, cs, htext, -, -⟩ := h.starts
  simp [htext]

private theorem readItemsFrom_itemsText (hitems : ∀ v ∈ items, IsTaken depth v) (first : Bool)
    (hfuel : 2 * (itemsText first items).length < fuel) (done : List Json) (r : List Char) (p : Position) :
    ∃ q, readItemsFrom fuel depth first done ⟨itemsText first items ++ ']' :: r, p⟩ =
      .ok (done.reverse ++ items, ⟨']' :: r, q⟩) := by
  -- Besides what an item needs for itself it takes one step, and twice its length pays for both.
  obtain ⟨fuel, rfl⟩ : ∃ n, fuel = n + 1 := ⟨fuel - 1, by omega⟩
  induction items generalizing fuel first done p with
  | nil =>
    refine ⟨p, ?_⟩
    rw [readItemsFrom, itemsText, List.nil_append, moreItems_end, List.append_nil]
    rfl
  | cons v items ih =>
    obtain ⟨hv, hitems⟩ := List.forall_mem_cons.1 hitems
    obtain ⟨c, cs, htext, hspace, hclose⟩ := hv.starts
    have hpos := hv.length_pos
    simp only [itemsText, List.length_append] at hfuel
    obtain ⟨fuel, rfl⟩ : ∃ n, fuel = n + 1 := ⟨fuel - 1, by omega⟩
    obtain ⟨q, hq⟩ := moreItems_comma hspace hclose first (cs ++ (itemsText false items ++ ']' :: r)) p
    obtain ⟨q', hq'⟩ := hv.takes fuel (by omega) (itemsText false items ++ ']' :: r) q
    obtain ⟨q'', hq''⟩ := ih hitems false (v :: done) q' fuel (by omega)
    refine ⟨q'', ?_⟩
    rw [← List.cons_append, ← htext] at hq
    rw [readItemsFrom, itemsText, List.append_assoc, List.append_assoc, hq]
    simp only [bind, Except.bind, if_true, hq', hq'', List.reverse_cons, List.append_assoc]
    rfl

theorem readEntriesFrom_fieldsText (hfields : ∀ e ∈ fields, IsTaken depth e.2) (first : Bool)
    (hfuel : 2 * (fieldsText first fields).length < fuel) (done : List (String × Json)) (r : List Char)
    (p : Position) :
    ∃ q, readEntriesFrom fuel depth first done ⟨fieldsText first fields ++ '\x7d' :: r, p⟩ =
      .ok (done.reverse ++ fields, ⟨'\x7d' :: r, q⟩) := by
  obtain ⟨fuel, rfl⟩ : ∃ n, fuel = n + 1 := ⟨fuel - 1, by omega⟩
  induction fields generalizing fuel first done p with
  | nil =>
    refine ⟨p, ?_⟩
    rw [readEntriesFrom, fieldsText, List.nil_append, moreEntries_close, List.append_nil]
    rfl
  | cons e fields ih =>
    obtain ⟨key, v⟩ := e
    have hv : IsTaken depth v := hfields (key, v) List.mem_cons_self
    have hpos := hv.length_pos
    simp only [fieldsText, unopenedField, List.length_append, List.length_cons] at hfuel
    obtain ⟨fuel, rfl⟩ : ∃ n, fuel = n + 1 := ⟨fuel - 1, by omega⟩
    obtain ⟨q, hq⟩ := readEntriesFrom_step no_blanks (hv.takes fuel (by omega)) first done key
      (fieldsText false fields ++ '\x7d' :: r) p
    obtain ⟨q', hq'⟩ := ih (List.forall_mem_cons.1 hfields).2 false ((key, v) :: done) q fuel (by omega)
    refine ⟨q', ?_⟩
    rw [List.nil_append] at hq
    simp only [fieldsText, unopenedField, List.append_assoc, List.cons_append] at hq ⊢
    rw [hq, hq', List.reverse_cons, List.append_assoc]
    rfl

theorem takes_array (hdepth : 1 < depth) (hitems : ∀ v ∈ items, IsTaken (depth - 1) v)
    (hfuel : 2 * (compact (.array items)).toList.length ≤ fuel + 1) :
    Takes (readValueFrom (fuel + 1) depth) (compact (.array items)).toList (.array items) := by
  intro r p
  simp only [toList_compact_array, List.length_cons, List.length_append, List.length_nil] at hfuel
  have htextFuel : 2 * (itemsText true items).length < fuel := by omega
  obtain ⟨q, hq⟩ := readItemsFrom_itemsText hitems true htextFuel [] r (p.after '[')
  have hspace : Cursor.isSpace '[' = false := rfl
  have hnext (cs : List Char) : Cursor.next ⟨'[' :: cs, p⟩ = ⟨cs, p.after '['⟩ := rfl
  refine ⟨q.after ']', ?_⟩
  rw [toList_compact_array, List.cons_append, List.append_assoc, readValueFrom, skipSpaces_of_not_isSpace hspace]
  simp only [if_neg (Nat.not_le.2 hdepth), hnext, List.singleton_append, hq, bind, Except.bind]
  rfl

theorem takes_object (hdepth : 1 < depth) (hfields : ∀ e ∈ fields, IsTaken (depth - 1) e.2)
    (hfuel : 2 * (compact (.object fields)).toList.length ≤ fuel + 1) :
    Takes (readValueFrom (fuel + 1) depth) (compact (.object fields)).toList (.object fields) := by
  intro r p
  simp only [toList_compact_object, List.length_cons, List.length_append, List.length_nil] at hfuel
  have htextFuel : 2 * (fieldsText true fields).length < fuel := by omega
  obtain ⟨q, hq⟩ := readEntriesFrom_fieldsText hfields true htextFuel [] r (p.after '\x7b')
  have hspace : Cursor.isSpace '\x7b' = false := rfl
  have hnext (cs : List Char) : Cursor.next ⟨'\x7b' :: cs, p⟩ = ⟨cs, p.after '\x7b'⟩ := rfl
  refine ⟨q.after '\x7d', ?_⟩
  rw [toList_compact_object, List.cons_append, List.append_assoc, readValueFrom, skipSpaces_of_not_isSpace hspace]
  simp only [if_neg (Nat.not_le.2 hdepth), hnext, List.singleton_append, hq, bind, Except.bind]
  rfl

/-- A value is taken if it is not nested too deep. -/
theorem Textual.isTaken (h : Textual n v) (hdepth : n < depth) : IsTaken depth v := by
  refine ⟨h.starts, fun fuel hfuel => ?_⟩
  induction h generalizing depth fuel with
  | null => exact fun r p => ⟨_, rfl⟩
  | bool b => cases b <;> exact fun r p => ⟨_, rfl⟩
  | string s =>
    intro r p
    obtain ⟨q, hq⟩ := takes_readString s r (p.after '"')
    have hnext : Cursor.next ⟨'"' :: (unopened s ++ r), p⟩ = ⟨unopened s ++ r, p.after '"'⟩ := rfl
    have hspace : Cursor.isSpace '"' = false := rfl
    refine ⟨q, ?_⟩
    rw [compact, toList_quoted, List.cons_append, readValueFrom, skipSpaces_of_not_isSpace hspace]
    simp only [readScalar, hnext, hq, bind, Except.bind]
    rfl
  | array h ih =>
    exact takes_array (by omega) (fun v hv => ⟨(h v hv).starts, fun _ => ih v hv (by omega) _⟩) hfuel
  | object h ih =>
    exact takes_object (by omega) (fun e he => ⟨(h e he).starts, fun _ => ih e he (by omega) _⟩) hfuel

theorem Textual.takes_readValue (h : Textual n v) (hdepth : n < depth) :
    Takes (readValue depth) (compact v).toList v := by
  intro r p
  refine (h.isTaken hdepth).takes _ ?_ r p
  simp only [List.length_append]
  omega

/-! ### Whole texts -/

/-- What the JSON of `x` gives back: taken as it is, with its objects in key order, and read from its text. -/
structure Survives {α : Type} (toJson : α → Json) (decode : Json → Except Fault α)
    (reading : Cursor → Except Fault (α × Cursor)) (x : α) : Prop where
  value : decode (toJson x) = .ok x
  sorted : decode (toJson x).sorted = .ok x
  text : readWhole reading (compact (toJson x)) = .ok x

section
variable {α : Type} {reading : Cursor → Except Fault (α × Cursor)} {text : String} {x : α}

theorem readWhole_of_takes (h : Takes reading text.toList x) : readWhole reading text = .ok x := by
  obtain ⟨q, hq⟩ := h [] {}
  rw [List.append_nil] at hq
  have hend : readEnd ⟨[], q⟩ = .ok () := rfl
  simp only [readWhole, Cursor.start, hq, hend, bind, Except.bind]
  rfl

/-- How a value is read whose shape is told only after its JSON. -/
theorem Textual.takes_of_decode {decode : Json → Except Fault α} (h : Textual n v) (hdepth : n < depth)
    (hdecode : decode v = .ok x) :
    Takes (fun cur => do let (v, cur) ← readValue depth cur; return (← decode v, cur)) (compact v).toList x := by
  intro r p
  obtain ⟨q, hq⟩ := h.takes_readValue hdepth r p
  exact ⟨q, by simp only [hq, hdecode, bind, Except.bind, pure, Except.pure]⟩

end

end Mailroom.Json
