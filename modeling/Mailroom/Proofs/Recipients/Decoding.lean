import Mailroom.Proofs.Message.Composition
import Mailroom.Recipients.Json

/-! Recipients in JSON arrays. An array of texts is a list of primary recipients, but any other array is a table
whose entries go by their places, so that it can name recipients of every role. -/
namespace Mailroom

/-! ### Entries -/

namespace RecipientEntry

variable {v : Json} {items : List Json} {texts : List String} {entry : RecipientEntry}

theorem strings?_eq_some_iff : strings? items = some texts ↔ items = texts.map .string := by
  induction items generalizing texts with
  | nil => cases texts <;> simp [strings?]
  | cons v items ih =>
    cases v with
    | string s => cases texts <;> simp [strings?, ih, and_comm]
    | _ => cases texts <;> simp [strings?]

/-- Exactly the JSON of an entry is read as the entry. -/
theorem ofJson?_eq_some_iff : ofJson? v = some entry ↔ v = entry.toJson := by
  cases v with
  | string s => cases entry <;> simp [ofJson?, toJson]
  | array items => cases entry <;> simp [ofJson?, toJson, strings?_eq_some_iff]
  | _ => cases entry <;> simp [ofJson?, toJson]

theorem decode_eq_ok_iff : decode v = .ok entry ↔ v = entry.toJson := by
  rw [← ofJson?_eq_some_iff, decode]
  cases ofJson? v <;> simp

end RecipientEntry

/-! ### Tables -/

namespace RecipientTable

variable {v : Json} {items : List Json} {entry : Option RecipientEntry} {roles : List Role}
  {t t' : RecipientTable}

def itemOf (entry : Option RecipientEntry) : Json := entry.elim .null RecipientEntry.toJson

def setEntries (t : RecipientTable) (fields : List (Role × Option RecipientEntry)) : RecipientTable :=
  fields.foldl (fun t (role, entry) => t.setEntry role entry) t

theorem ext_entry (h : ∀ role, t.entry role = t'.entry role) : t = t' := by
  obtain ⟨primary, cc, bcc⟩ := t
  obtain ⟨primary', cc', bcc'⟩ := t'
  obtain rfl : primary = primary' := h .primary
  obtain rfl : cc = cc' := h .cc
  obtain rfl : bcc = bcc' := h .bcc
  rfl

private theorem toJson_ne_null (entry : RecipientEntry) : entry.toJson ≠ .null := by
  cases entry <;> simp [RecipientEntry.toJson]

/-- Exactly null is read as no entry, and the JSON of an entry as the entry. -/
theorem entryOfJson_eq_ok_iff : entryOfJson v = .ok entry ↔ v = itemOf entry := by
  by_cases hv : v = .null
  · subst hv
    cases entry with
    | none => simp [entryOfJson, itemOf]
    | some entry => simp [entryOfJson, itemOf, (toJson_ne_null entry).symm]
  · have hmap : entryOfJson v = (RecipientEntry.decode v).map some := by
      cases v <;> first | rfl | contradiction
    rw [hmap, map_eq_ok_iff]
    cases entry with
    | none => simp [itemOf, hv]
    | some entry => simp [itemOf, RecipientEntry.decode_eq_ok_iff]

/-- Roles are filled by the items in order, as far as there are both. -/
private theorem fill_eq_ok_iff :
    fill t roles items = .ok t' ↔
      ∃ entries, items.take roles.length = entries.map itemOf ∧ t' = t.setEntries (roles.zip entries) := by
  induction roles generalizing t items with
  | nil => simp [fill, setEntries, eq_comm]
  | cons role roles ih =>
    cases items with
    | nil => simp [fill, setEntries, eq_comm]
    | cons v items =>
      simp only [fill, bind_eq_ok_iff, entryOfJson_eq_ok_iff, ih, List.length_cons, List.take_succ_cons]
      constructor
      · rintro ⟨entry, rfl, entries, hitems, rfl⟩
        exact ⟨entry :: entries, by rw [hitems, List.map_cons], rfl⟩
      · rintro ⟨entries, hitems, rfl⟩
        obtain ⟨entry, rest, rfl, rfl, hrest⟩ := List.map_eq_cons_iff.1 hitems.symm
        exact ⟨entry, rfl, rest, hrest.symm, rfl⟩

/-- The place of an entry tells its role. -/
private theorem entry_setEntries_all (entries : List (Option RecipientEntry)) (role : Role) :
    (setEntries {} (Role.all.zip entries)).entry role = entries[role.index]?.join := by
  rcases entries with _ | ⟨primary, _ | ⟨cc, _ | ⟨bcc, rest⟩⟩⟩
  all_goals cases role <;> rfl

/-- An array is a table if it has no more items than there are roles, and each of them is an entry or null. -/
theorem decode_array_eq_ok_iff :
    decode (.array items) = .ok t ↔
      ∃ entries : List (Option RecipientEntry),
        items = entries.map itemOf ∧ entries.length ≤ Role.all.length ∧
        ∀ role, t.entry role = entries[role.index]?.join := by
  have hset (entries : List (Option RecipientEntry)) :
      t = setEntries {} (Role.all.zip entries) ↔ ∀ role, t.entry role = entries[role.index]?.join := by
    simp only [← entry_setEntries_all]
    exact ⟨fun h _ => h ▸ rfl, ext_entry⟩
  by_cases hlong : Role.all.length < items.length
  · refine iff_of_false ?_ ?_
    · simp only [decode, hlong, if_true, bind_eq_ok_iff]
      rintro ⟨filled, -, _, hthrow, -⟩
      cases hthrow
    · rintro ⟨entries, rfl, hlength, -⟩
      rw [List.length_map] at hlong
      omega
  · have hdecode : decode (.array items) = fill {} Role.all items := by
      simp only [decode, hlong, if_false]
      exact bind_pure _
    rw [hdecode, fill_eq_ok_iff, List.take_of_length_le (not_lt.1 hlong)]
    simp only [hset]
    constructor
    · rintro ⟨entries, rfl, hentries⟩
      exact ⟨entries, rfl, by simpa using hlong, hentries⟩
    · rintro ⟨entries, rfl, -, hentries⟩
      exact ⟨entries, rfl, hentries⟩

end RecipientTable

/-! ### Recipients -/

namespace Recipients

open RecipientTable (itemOf)

/-- The item names the text: it is the text, or it lists the text. -/
inductive Names : Json → String → Prop
  | text (s : String) : Names (.string s) s
  | member {items : List Json} {s : String} (h : .string s ∈ items) : Names (.array items) s

variable {items : List Json} {r : Recipients} {role : Role} {s : String}

private theorem names_itemOf_iff {entry : Option RecipientEntry} :
    Names (itemOf entry) s ↔ s ∈ entry.elim [] RecipientEntry.texts := by
  constructor
  · intro h
    rcases entry with _ | _ | texts
    · cases h
    · cases h
      simp [RecipientEntry.texts]
    · cases h with
      | member h => simpa [RecipientEntry.texts] using h
  · intro h
    rcases entry with _ | text | texts
    · simp at h
    · obtain rfl : s = text := by simpa [RecipientEntry.texts] using h
      exact .text s
    · exact .member (by simpa [RecipientEntry.texts] using h)

theorem addresses_eq_nil_iff : r.addresses role = [] ↔ ∀ s ∈ r.texts role, Text.trim s = "" := by
  simp [addresses_eq, List.filter_eq_nil_iff]

/-- An array is a list if it can be one, and a table otherwise. -/
theorem decode_array_eq_ok_iff :
    decode (.array items) = .ok r ↔
      (∃ texts, items = texts.map .string ∧ r = list texts) ∨
        (¬∃ texts : List String, items = texts.map .string) ∧
          ∃ t, RecipientTable.decode (.array items) = .ok t ∧ r = table t := by
  simp only [decode, ← RecipientEntry.strings?_eq_some_iff]
  cases hstrings : RecipientEntry.strings? items with
  | some texts => simp [eq_comm]
  | none =>
    simp only [Option.map_none, Option.elim_none]
    cases RecipientTable.decode (.array items) with
    | ok t => simp [eq_comm]
    | error f => simp

/-- An array that is read as recipients copies the message to nobody in a role exactly if all its items are
texts, or the item in the place of the role names nothing but blanks. -/
theorem addresses_eq_nil_iff_of_decode_array (h : decode (.array items) = .ok r) (hrole : role ≠ .primary) :
    r.addresses role = [] ↔
      (∃ texts : List String, items = texts.map .string) ∨
        ∀ v, items[role.index]? = some v → ∀ s, Names v s → Text.trim s = "" := by
  rcases decode_array_eq_ok_iff.1 h with ⟨texts, hitems, rfl⟩ | ⟨hlist, t, ht, rfl⟩
  · refine iff_of_true ?_ (.inl ⟨texts, hitems⟩)
    cases role with
    | primary => contradiction
    | cc => rfl
    | bcc => rfl
  · obtain ⟨entries, rfl, -, hentries⟩ := RecipientTable.decode_array_eq_ok_iff.1 ht
    have htexts : (table t).texts role = (entries[role.index]?.join).elim [] RecipientEntry.texts := by
      rw [← hentries]
      cases role <;> rfl
    rw [or_iff_right hlist, addresses_eq_nil_iff, htexts, List.getElem?_map]
    cases entries[role.index]? with
    | none => simp
    | some entry => simp [names_itemOf_iff]

/-- An array that is no list of texts, and names no one but the primary recipient. -/
def plainItems : List Json := [.array [.string "a@example.com"], .null, .array [.string " "]]

theorem plainItems_copy_nobody :
    ∃ r, decode (.array plainItems) = .ok r ∧ r.addresses .cc = [] ∧ r.addresses .bcc = [] := by
  have hdecode : decode (.array plainItems) =
      .ok (table { primary := some (.many ["a@example.com"]), bcc := some (.many [" "]) }) := rfl
  refine ⟨_, hdecode, (addresses_eq_nil_iff_of_decode_array hdecode (by decide)).2 (.inr ?_),
    (addresses_eq_nil_iff_of_decode_array hdecode (by decide)).2 (.inr ?_)⟩
  · intro v hv s hs
    obtain rfl : Json.null = v := Option.some.inj hv
    cases hs
  · intro v hv s hs
    obtain rfl : Json.array [.string " "] = v := Option.some.inj hv
    cases hs with
    | member hmem =>
      obtain rfl : s = " " := by simpa using hmem
      decide

/-- The second item of an array is copied, though it is in no table under the name of a role. -/
theorem second_item_is_copied :
    ¬∀ items r, decode (.array items) = .ok r → r.addresses .cc = [] ∧ r.addresses .bcc = [] := by
  intro hall
  have h := (hall [.null, .string "boss@example.com"] _ rfl).1
  revert h
  decide +kernel

end Recipients

end Mailroom
