import Mailroom.Proofs.Json.Compact
import Mailroom.Proofs.Recipients.Adding
import Mailroom.Proofs.Recipients.Decoding

/-! Recipients that are written in JSON and read back. Nothing in the JSON tells their shape but its own, and
that is enough: a text, a list and a table are written as a string, an array and an object, and so are the
entries of a table, of which those that are missing are left out. -/
namespace Mailroom

open Json (Cursor Fault Textual Takes Survives)

/-! ### Lists of texts -/

private theorem textual_texts (n : Nat) (texts : List String) :
    Textual (n + 1) (.array (texts.map .string)) := by
  apply Textual.array
  intro v hv
  obtain ⟨text, -, rfl⟩ := List.mem_map.1 hv
  exact .string text

private theorem sorted_texts (texts : List String) :
    (Json.array (texts.map .string)).sorted = .array (texts.map .string) := by
  rw [Json.sorted]
  congr 1
  induction texts with
  | nil => rfl
  | cons text texts ih => rw [List.map_cons, Json.sortedItems, ih, Json.sorted.eq_def]

/-! ### Entries -/

namespace RecipientEntry

private theorem textual_toJson (n : Nat) (entry : RecipientEntry) :
    Textual (n + 1) entry.toJson := by
  cases entry with
  | one text => exact .string text
  | many texts => exact textual_texts n texts

private theorem sorted_toJson (entry : RecipientEntry) : entry.toJson.sorted = entry.toJson := by
  cases entry with
  | one text => rw [toJson, Json.sorted.eq_def]
  | many texts => exact sorted_texts texts

/-- An entry comes back from its JSON. -/
theorem survives (entry : RecipientEntry) : Survives toJson decode read entry where
  value := decode_eq_ok_iff.2 rfl
  sorted := by
    rw [sorted_toJson]
    exact decode_eq_ok_iff.2 rfl
  text := Json.readWhole_of_takes <|
    (entry.textual_toJson 0).takes_of_decode (by decide) (decode_eq_ok_iff.2 rfl)

end RecipientEntry

/-! ### Tables -/

namespace RecipientTable

abbrev Fields := List (Role × RecipientEntry)

variable {t : RecipientTable} {fields : Fields} {seen roles : List Role}

def field : Role × RecipientEntry → String × Json
  | (role, entry) => (role.name, entry.toJson)

def fieldsOf (t : RecipientTable) (roles : List Role) : Fields :=
  roles.filterMap fun role => (t.entry role).map (role, ·)

def rolesByName : List Role := [.bcc, .cc, .primary]

def putAll (t : RecipientTable) (fields : Fields) : RecipientTable :=
  t.setEntries (fields.map fun (role, entry) => (role, some entry))

/-- The entries of a table, each once and in any order. -/
structure Lists (fields : Fields) (t : RecipientTable) : Prop where
  nodup : (fields.map Prod.fst).Nodup
  lookup : ∀ role, fields.lookup role = t.entry role

private theorem map_fst_fieldsOf (t : RecipientTable) (roles : List Role) :
    (t.fieldsOf roles).map Prod.fst = roles.filter fun role => (t.entry role).isSome := by
  induction roles with
  | nil => rfl
  | cons role roles ih =>
    simp only [fieldsOf] at ih
    cases h : t.entry role <;> simp [fieldsOf, h, ih]

private theorem lookup_fieldsOf (t : RecipientTable) (roles : List Role) (role : Role) :
    (t.fieldsOf roles).lookup role = if role ∈ roles then t.entry role else none := by
  induction roles with
  | nil => rfl
  | cons role' roles ih =>
    simp only [fieldsOf] at ih
    by_cases hrole : role = role'
    · subst hrole
      cases h : t.entry role with
      | none => simp [fieldsOf, h, ih]
      | some entry => simp [fieldsOf, h]
    · have hne : (role == role') = false := beq_false_of_ne hrole
      cases h : t.entry role' with
      | none => simp [fieldsOf, h, ih, hrole]
      | some entry => simp [fieldsOf, h, ih, hrole, List.lookup_cons, hne]

private theorem mem_all (role : Role) : role ∈ Role.all := by cases role <;> decide

private theorem mem_rolesByName (role : Role) : role ∈ rolesByName := by cases role <;> decide

private theorem lists_fieldsOf (hnodup : roles.Nodup) (hall : ∀ role, role ∈ roles) :
    Lists (t.fieldsOf roles) t where
  nodup := by
    rw [map_fst_fieldsOf]
    exact hnodup.filter _
  lookup role := by rw [lookup_fieldsOf, if_pos (hall role)]

private theorem entry_putAll (h : (fields.map Prod.fst).Nodup) (role : Role) :
    (t.putAll fields).entry role = (fields.lookup role).or (t.entry role) := by
  induction fields generalizing t with
  | nil => rfl
  | cons e fields ih =>
    obtain ⟨role', entry⟩ := e
    obtain ⟨hnot, h⟩ := List.nodup_cons.1 h
    have hput : t.putAll ((role', entry) :: fields) = (t.setEntry role' (some entry)).putAll fields := rfl
    rw [hput, ih h, entry_setEntry, List.lookup_cons]
    by_cases hrole : role = role'
    · subst hrole
      have hnone : fields.lookup role = none := by
        rw [List.lookup_eq_none_iff]
        rintro ⟨role', entry'⟩ he
        exact bne_iff_ne.2 fun heq => hnot (List.mem_map.2 ⟨_, he, heq.symm⟩)
      simp [hnone]
    · have hne : (role == role') = false := beq_false_of_ne hrole
      simp [hrole, hne]

private theorem Lists.putAll_eq (h : Lists fields t) : putAll {} fields = t := by
  apply ext_entry
  intro role
  have hempty : ({} : RecipientTable).entry role = none := by cases role <;> rfl
  rw [entry_putAll h.nodup, h.lookup, hempty, Option.or_none]

theorem roleOfKey?_name (role : Role) : roleOfKey? role.name = some role := by
  cases role <;> decide +kernel

private theorem entryOfJson_toJson (entry : RecipientEntry) :
    entryOfJson entry.toJson = .ok (some entry) :=
  entryOfJson_eq_ok_iff.2 rfl

/-- A role that is named once is then among those that were named. -/
private theorem nodup_seen {role : Role} (h : (seen ++ role :: roles).Nodup) :
    seen.contains role = false ∧ (role :: seen ++ roles).Nodup := by
  have hnext : (role :: (seen ++ roles)).Nodup := List.perm_middle.nodup_iff.1 h
  have hnot : role ∉ seen := fun hmem => (List.nodup_cons.1 hnext).1 (List.mem_append_left _ hmem)
  exact ⟨by simpa using hnot, hnext⟩

private theorem addEntries_fields (h : (seen ++ fields.map Prod.fst).Nodup) :
    addEntries t seen (fields.map field) = .ok (t.putAll fields) := by
  induction fields generalizing t seen with
  | nil => rfl
  | cons e fields ih =>
    obtain ⟨role, entry⟩ := e
    obtain ⟨hseen, hnext⟩ := nodup_seen h
    rw [List.map_cons, field, addEntries]
    simp only [roleOfKey?_name, hseen, entryOfJson_toJson, bind, Except.bind, Bool.false_eq_true, if_false]
    exact ih hnext

/-- A table is read from its entries in any order. -/
theorem Lists.decode_object (h : Lists fields t) : decode (.object (fields.map field)) = .ok t := by
  have hseen : ([] ++ fields.map Prod.fst).Nodup := h.nodup
  rw [decode, addEntries_fields hseen, h.putAll_eq]

private theorem toJson_eq (t : RecipientTable) :
    t.toJson = .object ((t.fieldsOf Role.all).map field) := by
  rw [toJson, fieldsOf, List.map_filterMap]
  simp only [Option.map_map]
  rfl

private theorem sorted_toJson (t : RecipientTable) :
    t.toJson.sorted = .object ((t.fieldsOf rolesByName).map field) := by
  have hbccCc : "bcc" < "cc" := by decide
  have hbccTo : "bcc" < "to" := by decide
  have hccTo : "cc" < "to" := by decide
  obtain ⟨primary, cc, bcc⟩ := t
  cases primary <;> cases cc <;> cases bcc
  all_goals
    simp only [toJson_eq, fieldsOf, entry, Role.all, rolesByName, Option.map_none, Option.map_some,
      Option.some.injEq, List.filterMap_cons_none, List.filterMap_cons_some, List.filterMap_nil, List.map_cons,
      List.map_nil, field, Role.name, Json.sorted, Json.sortedEntries, Entries.insert,
      RecipientEntry.sorted_toJson, hbccCc, hbccTo, hccTo, if_true]

private theorem takes_readEntry (inArray : Bool) (entry : RecipientEntry) :
    Takes (readEntry inArray) entry.toJson.compact.toList (some entry) := by
  intro r p
  have hdepth : 1 < Json.maxDepth - 1 := by decide
  obtain ⟨q, hq⟩ := (entry.textual_toJson 0).takes_readValue hdepth r p
  refine ⟨q, ?_⟩
  simp only [readEntry, hq, entryOfJson_toJson, bind, Except.bind]
  rfl

theorem readEntriesFrom_fieldsText (h : (seen ++ fields.map Prod.fst).Nodup) (first : Bool) {fuel : Nat}
    (hfuel : fields.length < fuel) (r : List Char) (p : Json.Position) :
    ∃ q, readEntriesFrom t seen first fuel ⟨Json.fieldsText first (fields.map field) ++ '\x7d' :: r, p⟩ =
      .ok (t.putAll fields, ⟨r, q⟩) := by
  obtain ⟨fuel, rfl⟩ : ∃ n, fuel = n + 1 := ⟨fuel - 1, by omega⟩
  induction fields generalizing fuel t seen first p with
  | nil => exact ⟨p.after '\x7d', rfl⟩
  | cons e fields ih =>
    obtain ⟨role, entry⟩ := e
    obtain ⟨fuel, rfl⟩ : ∃ n, fuel = n + 1 := ⟨fuel - 1, by simp at hfuel; omega⟩
    obtain ⟨hseen, hnext⟩ := nodup_seen h
    obtain ⟨q1, q2, q3, hmore, hkey, hcolon⟩ := Json.reads_key Json.no_blanks first role.name
      (entry.toJson.compact.toList ++ (Json.fieldsText false (fields.map field) ++ '\x7d' :: r)) p
    obtain ⟨q4, hentry⟩ := takes_readEntry false entry
      (Json.fieldsText false (fields.map field) ++ '\x7d' :: r) q3
    obtain ⟨q5, hrest⟩ := ih (t := t.setEntry role (some entry)) hnext false q4 fuel (by simpa using hfuel)
    refine ⟨q5, ?_⟩
    rw [List.nil_append] at hmore
    rw [readEntriesFrom, List.map_cons, field, Json.fieldsText, Json.unopenedField]
    simp only [List.append_assoc, List.cons_append, hmore, hkey, roleOfKey?_name, hseen, hcolon, hentry, hrest,
      bind, Except.bind, if_true, Bool.false_eq_true, if_false]
    rfl

private theorem takes_read (t : RecipientTable) : Takes read t.toJson.compact.toList t := by
  intro r p
  have hlists : Lists (t.fieldsOf Role.all) t := lists_fieldsOf (by decide) mem_all
  have hseen : ([] ++ (t.fieldsOf Role.all).map Prod.fst).Nodup := hlists.nodup
  have hlength := Json.length_le_length_fieldsText true ((t.fieldsOf Role.all).map field)
  have hfuel : (t.fieldsOf Role.all).length <
      (Json.fieldsText true ((t.fieldsOf Role.all).map field) ++ '\x7d' :: r).length + 2 := by
    rw [List.length_map] at hlength
    rw [List.length_append]
    omega
  obtain ⟨q, hq⟩ := readEntriesFrom_fieldsText (t := {}) hseen true hfuel r (p.after '\x7b')
  have hspace : Cursor.isSpace '\x7b' = false := rfl
  have hnext (cs : List Char) : Cursor.next ⟨'\x7b' :: cs, p⟩ = ⟨cs, p.after '\x7b'⟩ := rfl
  refine ⟨q, ?_⟩
  rw [toJson_eq, Json.toList_compact_object, List.cons_append, List.append_assoc, List.singleton_append]
  simp only [read, Json.skipSpaces_of_not_isSpace hspace, hnext, List.length_cons, hq, hlists.putAll_eq]

/-- A table comes back from its JSON, with the entries that it has and without those that it has not. -/
theorem survives (t : RecipientTable) : Survives toJson decode read t where
  value := by
    rw [toJson_eq]
    exact (lists_fieldsOf (by decide) mem_all).decode_object
  sorted := by
    rw [sorted_toJson]
    exact (lists_fieldsOf (by decide) mem_rolesByName).decode_object
  text := Json.readWhole_of_takes (takes_read t)

private theorem textual_toJson (t : RecipientTable) : Textual 2 t.toJson := by
  rw [toJson_eq]
  apply Textual.object
  intro e he
  obtain ⟨⟨role, entry⟩, -, rfl⟩ := List.mem_map.1 he
  exact entry.textual_toJson 0

end RecipientTable

/-! ### Recipients -/

namespace Recipients

private theorem textual_toJson (r : Recipients) : Textual 2 r.toJson := by
  cases r with
  | one text => exact .string text
  | list texts => exact textual_texts 1 texts
  | table t => exact t.textual_toJson

private theorem decode_list (texts : List String) :
    decode (.array (texts.map .string)) = .ok (list texts) :=
  decode_array_eq_ok_iff.2 (.inl ⟨texts, rfl, rfl⟩)

/-- An object can be nothing but a table. -/
private theorem decode_object {fields : List (String × Json)} {t : RecipientTable}
    (h : RecipientTable.decode (.object fields) = .ok t) : decode (.object fields) = .ok (table t) := by
  simp only [decode, h]

theorem decode_toJson (r : Recipients) : decode r.toJson = .ok r := by
  cases r with
  | one text => rfl
  | list texts => exact decode_list texts
  | table t =>
    have htable := t.survives.value
    rw [RecipientTable.toJson_eq] at htable
    rw [toJson, RecipientTable.toJson_eq]
    exact decode_object htable

theorem decode_sorted_toJson (r : Recipients) : decode r.toJson.sorted = .ok r := by
  cases r with
  | one text =>
    rw [toJson, Json.sorted.eq_def]
    rfl
  | list texts =>
    rw [toJson, sorted_texts]
    exact decode_list texts
  | table t =>
    have htable := t.survives.sorted
    rw [RecipientTable.sorted_toJson] at htable
    rw [toJson, RecipientTable.sorted_toJson]
    exact decode_object htable

/-- Recipients come back from their JSON in the shape that they were given in. -/
theorem survives (r : Recipients) : Survives toJson decode read r where
  value := r.decode_toJson
  sorted := r.decode_sorted_toJson
  text := Json.readWhole_of_takes (r.textual_toJson.takes_of_decode (by decide) r.decode_toJson)

end Recipients

/-- Recipients come back from their JSON in the shape that they were given in, and so do a table and an entry
of a table: read from a value, from one whose entries have been sorted, or from text. -/
theorem Recipients.shapes_survive_json (r : Recipients) (t : RecipientTable) (entry : RecipientEntry) :
    Survives Recipients.toJson Recipients.decode Recipients.read r ∧
      Survives RecipientTable.toJson RecipientTable.decode RecipientTable.read t ∧
      Survives RecipientEntry.toJson RecipientEntry.decode RecipientEntry.read entry :=
  ⟨r.survives, t.survives, entry.survives⟩

/-- An entry without texts is written, and an entry that is missing is not. -/
example : (Recipients.table { cc := some (.many []) }).toJson.compact = "\x7b\"cc\":[]\x7d" := by rfl

end Mailroom
