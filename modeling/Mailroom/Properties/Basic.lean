import Mailroom.Entries
import Mailroom.Text.Blank

/-! Bags of properties: one text for each key. -/
namespace Mailroom

inductive PropertyFault where
  | blankKey
  /-- A value of this kind stands where an object is expected. -/
  | notObject (kind : String)
  /-- The value of a key is a container of this kind. -/
  | notScalar (key kind : String)
  | duplicateKey (key : String)
  deriving DecidableEq, Repr

def PropertyFault.message : PropertyFault → String
  | blankKey => "property key cannot be empty"
  | notObject kind => "expected an object, got " ++ kind
  | notScalar key kind => "value of '" ++ key ++ "' must be a scalar, got " ++ kind
  | duplicateKey key => "duplicate property '" ++ key ++ "'"

/-- Properties in the order of their keys. -/
structure PropertyBag where
  entries : List (String × String)
  inOrder : Entries.InOrder entries
  deriving DecidableEq

namespace PropertyBag

instance : Repr PropertyBag := ⟨fun bag n => reprPrec bag.entries n⟩

def empty : PropertyBag := ⟨[], Entries.inOrder_nil⟩

instance : Inhabited PropertyBag := ⟨empty⟩

def size (bag : PropertyBag) : Nat := bag.entries.length

def get? (bag : PropertyBag) (key : String) : Option String :=
  Entries.get? key bag.entries

/-- Sets the value of a key, both as they are. -/
def put (bag : PropertyBag) (key value : String) : PropertyBag :=
  ⟨Entries.insert key value bag.entries, Entries.inOrder_insert key value bag.inOrder⟩

def erase (bag : PropertyBag) (key : String) : PropertyBag :=
  ⟨Entries.erase key bag.entries, Entries.inOrder_erase key bag.inOrder⟩

/-- Sets a property; key and value are trimmed, and a blank key is refused. -/
def set (bag : PropertyBag) (key value : String) : Except PropertyFault PropertyBag :=
  let key := Text.trim key
  if key.isEmpty then .error .blankKey else .ok (bag.put key (Text.trim value))

def setIfNamed (bag : PropertyBag) (key value : String) : PropertyBag :=
  match bag.set key value with
  | .ok bag => bag
  | .error _ => bag

def merge (bag other : PropertyBag) : PropertyBag :=
  other.entries.foldl (fun bag (key, value) => bag.put key value) bag

/-- The bag of a list of pairs; blank keys are passed over, and the last of several pairs holds. -/
def ofPairs (pairs : List (String × String)) : PropertyBag :=
  pairs.foldl (fun bag (key, value) => bag.setIfNamed key value) empty

def ofEntries (pairs : List (String × String)) : PropertyBag :=
  pairs.foldl (fun bag (key, value) => bag.put key value) empty

inductive Edit where
  | set (key value : String)
  | remove (key : String)
  | merge (other : PropertyBag)
  /-- The bag is filled anew. -/
  | collect (pairs : List (String × String))
  deriving DecidableEq, Repr

/-- Carries out a change, with the value that is taken out, if any. A change that is refused leaves the
bag as it is. -/
def edit (bag : PropertyBag) : Edit → Except PropertyFault (Option String) × PropertyBag
  | .set key value =>
    match bag.set key value with
    | .ok bag => (.ok none, bag)
    | .error f => (.error f, bag)
  | .remove key => (.ok (bag.get? key), bag.erase key)
  | .merge other => (.ok none, bag.merge other)
  | .collect pairs => (.ok none, ofPairs pairs)

@[simp] theorem get?_empty (key : String) : empty.get? key = none := rfl

@[simp] theorem get?_put_self (bag : PropertyBag) (key value : String) :
    (bag.put key value).get? key = some value :=
  Entries.get?_insert_self key value bag.entries

theorem get?_put_of_ne (bag : PropertyBag) {k key : String} (h : k ≠ key) (value : String) :
    (bag.put key value).get? k = bag.get? k :=
  Entries.get?_insert_of_ne h value bag.entries

@[simp] theorem get?_erase_self (bag : PropertyBag) (key : String) :
    (bag.erase key).get? key = none :=
  Entries.get?_erase_self key bag.entries

theorem get?_erase_of_ne (bag : PropertyBag) {k key : String} (h : k ≠ key) :
    (bag.erase key).get? k = bag.get? k :=
  Entries.get?_erase_of_ne h bag.entries

end PropertyBag

end Mailroom
