import Mailroom.Json.Decode
import Mailroom.Properties.Basic
import Mailroom.Text.Shown
import Mailroom.Text.Split

/-! Bags of properties as JSON, and as they are shown. -/
namespace Mailroom.PropertyBag

def scalarText (key : String) : Json → Except PropertyFault (Option String)
  | .null => .ok none
  | .string s => .ok (some s)
  | .bool b => .ok (some (if b then "true" else "false"))
  | .number n => .ok (some n.render)
  | v => .error (.notScalar key v.kind)

/-- Adds one entry of an object; a key that is already there once trimmed is refused. -/
def addEntry (bag : PropertyBag) (key : String) (value : Json) : Except PropertyFault PropertyBag := do
  match ← scalarText key value with
  | none => return bag
  | some text =>
    let name := Text.trim key
    if (bag.get? name).isSome then throw (.duplicateKey name)
    bag.set key text

/-- The bag of a flat object: scalars become text, null entries are dropped, keys and values are
trimmed. -/
def ofJson : Json → Except PropertyFault PropertyBag
  | .object entries => entries.foldlM (fun bag (key, value) => bag.addEntry key value) empty
  | v => .error (.notObject v.kind)

def toJson (bag : PropertyBag) : Json :=
  .object (bag.entries.map fun (key, value) => (key, .string value))

def decode (v : Json) : Except Json.Fault PropertyBag := do
  return ofEntries (← Json.stringsOfJson v)

def decodeText (text : String) : Except Json.Fault PropertyBag := do
  return ofEntries (← Json.readWhole Json.readStrings text)

/-- A key whose value is not to be seen. -/
def isSecret (key : String) : Bool :=
  (Text.dropSuffix? "password".toList key.toList).isSome ||
    (Text.dropSuffix? "secret".toList key.toList).isSome

def shown (bag : PropertyBag) : Text.Shown :=
  .table (bag.entries.map fun (key, value) =>
    (key, .string (if isSecret key then "***" else value)))

end Mailroom.PropertyBag
