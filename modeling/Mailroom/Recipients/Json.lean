import Mailroom.Json.Skip
import Mailroom.Recipients.Basic
import Mailroom.Text.Shown

/-! Recipients as JSON, and as they are shown. -/
namespace Mailroom

open Json (Cursor Fault misfit)

def RecipientEntry.strings? : List Json → Option (List String)
  | [] => some []
  | .string s :: r => (strings? r).map (s :: ·)
  | _ :: _ => none

namespace RecipientEntry

/-- The fault of a value that is neither a string nor a list of strings. -/
def mismatch : Json.Cause :=
  .shape "data did not match any variant of untagged enum OneOrMany"

def ofJson? : Json → Option RecipientEntry
  | .string s => some (one s)
  | .array items => (strings? items).map many
  | _ => none

/-- Reads an entry, or says that it is none. -/
def decode (v : Json) : Except Fault RecipientEntry :=
  match ofJson? v with
  | some entry => .ok entry
  | none => .error (misfit mismatch)

def read (cur : Cursor) : Except Fault (RecipientEntry × Cursor) := do
  let (v, cur) ← Json.readValue Json.maxDepth cur
  return (← decode v, cur)

def toJson : RecipientEntry → Json
  | one text => .string text
  | many texts => .array (texts.map .string)

def shown : RecipientEntry → Text.Shown
  | one text => .tuple "One" [.string text]
  | many texts => .tuple "Many" [.list (texts.map .string)]

end RecipientEntry

namespace RecipientTable

def expectation : String := "struct RecipientMap"

def entryOfJson : Json → Except Fault (Option RecipientEntry)
  | .null => .ok none
  | v => (RecipientEntry.decode v).map some

def repeated (role : Role) : Json.Cause :=
  .shape ("duplicate field `" ++ role.name ++ "`")

def roleOfKey? (key : String) : Option Role := Role.choice.lookup key

/-- Adds the entries of an object to a table; `seen` are the roles that were named before. -/
def addEntries (t : RecipientTable) (seen : List Role) :
    List (String × Json) → Except Fault RecipientTable
  | [] => .ok t
  | (key, v) :: r =>
    match roleOfKey? key with
    | none => addEntries t seen r
    | some role =>
      if seen.contains role then .error (misfit (repeated role))
      else do
        let entry ← entryOfJson v
        addEntries (t.setEntry role entry) (role :: seen) r

def fill (t : RecipientTable) : List Role → List Json → Except Fault RecipientTable
  | role :: roles, v :: r => do
    let entry ← entryOfJson v
    fill (t.setEntry role entry) roles r
  | _, _ => .ok t

/-- Reads a table: an object with an entry for each role, or an array of the entries in order. -/
def decode : Json → Except Fault RecipientTable
  | .object entries => addEntries {} [] entries
  | .array items => do
    let t ← fill {} Role.all items
    if Role.all.length < items.length then
      throw (misfit (.shape ("invalid length " ++ toString items.length ++
        ", expected fewer elements in array")))
    return t
  | v => .error (misfit (Json.wrongKind v expectation))

/-- The place after a container that breaks off at the cursor: its end is passed if it comes next, and
so is a comma inside an array. -/
def afterBreak (inArray : Bool) (cur : Cursor) : Cursor :=
  let cur := cur.skipSpaces
  match cur.rest with
  | ']' :: _ => if inArray then cur.next else cur
  | '}' :: _ => if inArray then cur else cur.next
  | ',' :: _ => if inArray then cur.next.skipSpaces else cur
  | _ => cur

def readEntry (inArray : Bool) (cur : Cursor) : Except Fault (Option RecipientEntry × Cursor) := do
  let (v, cur) ← Json.readValue (Json.maxDepth - 1) cur
  let entry ← (entryOfJson v).mapError (·.placedAt (afterBreak inArray cur).position)
  return (entry, cur)

def readArrayEnd (cur : Cursor) : Except Fault Cursor :=
  let cur := cur.skipSpaces
  match cur.rest with
  | [] => .error (cur.faultAhead .endInList)
  | ']' :: _ => .ok cur.next
  | ',' :: _ =>
    let cur := cur.next.skipSpaces
    match cur.rest with
    | ']' :: _ => .error (cur.faultAhead .trailingComma)
    | _ => .error (cur.faultAhead .trailingCharacters)
  | _ => .error (cur.faultAhead .trailingCharacters)

def readItems (t : RecipientTable) (first : Bool) :
    List Role → Cursor → Except Fault (RecipientTable × Cursor)
  | [], cur => do return (t, ← readArrayEnd cur)
  | role :: roles, cur => do
    let (more, cur) ← Json.moreItems first cur
    if more then
      let (entry, cur) ← readEntry true cur
      readItems (t.setEntry role entry) false roles cur
    else return (t, ← readArrayEnd cur)

/-- Reads the entries of an object; each passes a character, so the length of the rest is fuel
enough. -/
def readEntriesFrom (t : RecipientTable) (seen : List Role) (first : Bool) :
    (fuel : Nat) → Cursor → Except Fault (RecipientTable × Cursor)
  | 0, cur => .error (cur.fault .endInObject)
  | fuel + 1, cur => do
    let (more, cur) ← Json.moreEntries first cur
    if more then
      let (key, cur) ← Json.readString cur
      match roleOfKey? key with
      | none => readEntriesFrom t seen false fuel (← Json.skipValue (← Json.readColon cur))
      | some role =>
        if seen.contains role then throw ((afterBreak false cur).fault (repeated role))
        let (entry, cur) ← readEntry false (← Json.readColon cur)
        readEntriesFrom (t.setEntry role entry) (role :: seen) false fuel cur
    else return (t, cur.next)

def read (cur : Cursor) : Except Fault (RecipientTable × Cursor) :=
  let cur := cur.skipSpaces
  match cur.rest with
  | [] => .error (cur.faultAhead .endInValue)
  | '[' :: _ => readItems {} true Role.all cur.next
  | '{' :: _ => readEntriesFrom {} [] true (cur.rest.length + 1) cur.next
  | _ => .error (Json.wrongKindAt cur expectation)

def toJson (t : RecipientTable) : Json :=
  .object (Role.all.filterMap fun role => (t.entry role).map fun e => (role.name, e.toJson))

def shown (t : RecipientTable) : Text.Shown :=
  .record "RecipientMap" (Role.all.map fun role =>
    (role.name, .option RecipientEntry.shown (t.entry role)))

end RecipientTable

namespace Recipients

/-- The fault of a value that is of none of the three shapes. -/
def mismatch : Json.Cause :=
  .shape "data did not match any variant of untagged enum Recipients"

/-- Reads recipients; an array of strings is a list before it is a table. -/
def decode (v : Json) : Except Fault Recipients :=
  let asTable : Except Fault Recipients :=
    match RecipientTable.decode v with
    | .ok t => .ok (table t)
    | .error _ => .error (misfit mismatch)
  match v with
  | .string s => .ok (one s)
  | .array items => ((RecipientEntry.strings? items).map list).elim asTable .ok
  | .object _ => asTable
  | _ => .error (misfit mismatch)

def read (cur : Cursor) : Except Fault (Recipients × Cursor) := do
  let (v, cur) ← Json.readValue Json.maxDepth cur
  return (← decode v, cur)

def toJson : Recipients → Json
  | one text => .string text
  | list texts => .array (texts.map .string)
  | table t => t.toJson

def shown : Recipients → Text.Shown
  | one text => .tuple "One" [.string text]
  | list texts => .tuple "List" [.list (texts.map .string)]
  | table t => .tuple "ByType" [t.shown]

end Recipients

end Mailroom
