import Mailroom.Recipients.Role
import Mailroom.Text.Blank

/-! Recipients as they are given: texts that have not been read as addresses. -/
namespace Mailroom

inductive RecipientEntry where
  | one (text : String)
  | many (texts : List String)
  deriving DecidableEq, Repr

def RecipientEntry.texts : RecipientEntry → List String
  | one text => [text]
  | many texts => texts

def RecipientEntry.push (entry : RecipientEntry) (text : String) : RecipientEntry :=
  .many (entry.texts ++ [text])

structure RecipientTable where
  primary : Option RecipientEntry := none
  cc : Option RecipientEntry := none
  bcc : Option RecipientEntry := none
  deriving DecidableEq, Repr, Inhabited

namespace RecipientTable

def entry (t : RecipientTable) : Role → Option RecipientEntry
  | .primary => t.primary
  | .cc => t.cc
  | .bcc => t.bcc

def setEntry (t : RecipientTable) (role : Role) (entry : Option RecipientEntry) : RecipientTable :=
  match role with
  | .primary => { t with primary := entry }
  | .cc => { t with cc := entry }
  | .bcc => { t with bcc := entry }

def add (t : RecipientTable) (role : Role) (text : String) : RecipientTable :=
  t.setEntry role (some (match t.entry role with
    | none => .one text
    | some entry => entry.push text))

end RecipientTable

/-- A text or a list names primary recipients only; a table names those of every role. -/
inductive Recipients where
  | one (text : String)
  | list (texts : List String)
  | table (table : RecipientTable)
  deriving DecidableEq, Repr

namespace Recipients

instance : Inhabited Recipients := ⟨list []⟩

/-- The same recipients in a table; an empty list leaves its role without an entry. -/
def toTable : Recipients → RecipientTable
  | one text => { primary := some (.one text) }
  | list [] => {}
  | list texts => { primary := some (.many texts) }
  | table t => t

def add (r : Recipients) (role : Role) (text : String) : Recipients :=
  table (r.toTable.add role text)

def texts (r : Recipients) (role : Role) : List String :=
  match r, role with
  | one text, .primary => [text]
  | list texts, .primary => texts
  | table t, role => (t.entry role).elim [] RecipientEntry.texts
  | _, _ => []

/-- The addresses given for a role: trimmed, without blank ones, and not yet read. -/
def addresses (r : Recipients) (role : Role) : List String :=
  ((r.texts role).map Text.trim).filter fun s => !s.isEmpty

end Recipients

end Mailroom
