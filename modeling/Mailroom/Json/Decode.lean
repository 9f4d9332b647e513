import Mailroom.Json.Reader
import Mailroom.Text.Quoted

/-! Values of a wanted shape, from JSON values and from JSON text. -/
namespace Mailroom.Json

def describe : Json → String
  | null => "null"
  | bool b => "boolean `" ++ (if b then "true" else "false") ++ "`"
  | number (.whole n) => "integer `" ++ toString n ++ "`"
  | number (.double x) => "floating point `" ++ x.render ++ "`"
  | string s => "string " ++ Text.showString s
  | array _ => "sequence"
  | object _ => "map"

def wrongKind (v : Json) (expected : String) : Cause :=
  .shape ("invalid type: " ++ describe v ++ ", expected " ++ expected)

def misfit (cause : Cause) : Fault := ⟨cause, none⟩

/-- The fault at a value that is not of the expected kind: a scalar is read, and may be found broken,
before it is refused; a container is refused at its bracket. -/
def wrongKindAt (cur : Cursor) (expected : String) : Fault :=
  match cur.rest with
  | '[' :: _ => cur.fault (wrongKind (.array []) expected)
  | '{' :: _ => cur.fault (wrongKind (.object []) expected)
  | [] => cur.faultAhead .missingValue
  | _ =>
    match readScalar cur with
    | .ok (v, after) => after.fault (wrongKind v expected)
    | .error f => f

def readStringValue (expected : String) (cur : Cursor) : Except Fault (String × Cursor) :=
  let cur := cur.skipSpaces
  match cur.rest with
  | [] => .error (cur.faultAhead .endInValue)
  | '"' :: _ => readString cur.next
  | _ => .error (wrongKindAt cur expected)

/-! ### One name of several -/

/-- The alternatives of a choice, each under its name. -/
abbrev Choice (α : Type) := List (String × α)

namespace Choice

variable {α : Type}

def expectation (choice : Choice α) : String :=
  let names := choice.map fun (name, _) => "`" ++ name ++ "`"
  match names with
  | [one] => one
  | [one, other] => one ++ " or " ++ other
  | _ => "one of " ++ ", ".intercalate names

def unknown (choice : Choice α) (name : String) : Cause :=
  .shape ("unknown variant `" ++ name ++ "`, expected " ++ choice.expectation)

def named (choice : Choice α) (name : String) : Except Cause α :=
  match choice.lookup name with
  | some x => .ok x
  | none => .error (choice.unknown name)

/-- A choice is written as its name, or as an object whose only key is the name, over null. -/
def ofJson (choice : Choice α) : Json → Except Fault α
  | .string name => (choice.named name).mapError misfit
  | .object [(name, content)] => do
    let x ← (choice.named name).mapError misfit
    match content with
    | .null => return x
    | v => throw (misfit (wrongKind v "unit"))
  | .object _ =>
    .error (misfit (.shape "invalid value: map, expected map with a single key"))
  | v => .error (misfit (wrongKind v "string or map"))

def readUnit (cur : Cursor) : Except Fault Cursor :=
  let cur := cur.skipSpaces
  match cur.rest with
  | [] => .error (cur.faultAhead .endInValue)
  | 'n' :: _ => readWord ['u', 'l', 'l'] cur.next
  | _ => .error (wrongKindAt cur "unit")

def read (choice : Choice α) (cur : Cursor) : Except Fault (α × Cursor) :=
  let cur := cur.skipSpaces
  match cur.rest with
  | [] => .error (cur.faultAhead .endInValue)
  | '"' :: _ => do
    let (name, cur) ← readString cur.next
    let x ← (choice.named name).mapError cur.fault
    return (x, cur)
  | '{' :: _ => do
    let (name, cur) ← readStringValue "variant identifier" cur.next
    let x ← (choice.named name).mapError cur.fault
    let cur ← readUnit (← readColon cur)
    let cur := cur.skipSpaces
    match cur.rest with
    | [] => throw (cur.fault .endInObject)
    | '}' :: _ => return (x, cur.next)
    | _ => throw (cur.fault .missingValue)
  | _ => .error (cur.faultAhead .missingValue)

def ofText (choice : Choice α) (text : String) : Except Fault α :=
  readWhole choice.read text

end Choice

/-! ### Objects of strings -/

def stringEntries : List (String × Json) → Except Fault (List (String × String))
  | [] => .ok []
  | (key, .string s) :: r => do return (key, s) :: (← stringEntries r)
  | (_, v) :: _ => .error (misfit (wrongKind v "a string"))

def stringsOfJson : Json → Except Fault (List (String × String))
  | .object entries => stringEntries entries
  | v => .error (misfit (wrongKind v "a map"))

/-- The entries that are left of an object of strings; each passes a character, so the length of the
rest is fuel enough. -/
def readStringsFrom : (fuel : Nat) → (first : Bool) → (done : List (String × String)) → Cursor →
    Except Fault (List (String × String) × Cursor)
  | 0, _, _, cur => .error (cur.fault .endInObject)
  | fuel + 1, first, done, cur => do
    let (more, cur) ← moreEntries first cur
    if more then
      let (key, cur) ← readString cur
      let (s, cur) ← readStringValue "a string" (← readColon cur)
      readStringsFrom fuel false ((key, s) :: done) cur
    else return (done.reverse, cur.next)

def readStrings (cur : Cursor) : Except Fault (List (String × String) × Cursor) :=
  let cur := cur.skipSpaces
  match cur.rest with
  | [] => .error (cur.faultAhead .endInValue)
  | '{' :: _ => readStringsFrom (cur.rest.length + 1) true [] cur.next
  | _ => .error (wrongKindAt cur "a map")

end Mailroom.Json
