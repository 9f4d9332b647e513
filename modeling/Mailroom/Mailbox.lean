import Mailroom.Address.Basic

/-! Mailboxes: an address, with or without the name of its owner. -/
namespace Mailroom

structure Mailbox where
  name : Option String
  address : Address
  deriving DecidableEq, Repr

namespace Mailbox

def text (m : Mailbox) : String :=
  match m.name with
  | none => m.address.text
  | some name => name ++ " <" ++ m.address.text ++ ">"

def bare (address : String) : Except Address.Refusal Mailbox := do
  return ⟨none, ← Address.parse address⟩

def named (name address : String) : Except Address.Refusal Mailbox := do
  return ⟨some name, ← Address.parse address⟩

/-- The text before an angle bracket without blanks and without the quotation marks around it. -/
def displayName (cs : List Char) : List Char :=
  Text.strip Text.isBlank (Text.strip (· == '"') (Text.strip Text.isBlank cs))

/-- Reads an address, or a name and an address between angle brackets. An empty name is none. -/
def parse (s : String) : Except Address.Refusal Mailbox :=
  let s := Text.trim s
  match Text.cutLast? (· == '<') s.toList with
  | none => bare s
  | some (before, after) =>
    match Text.dropSuffix? ['>'] after with
    | none => .error ⟨s, .unbalancedAngles⟩
    | some address =>
      match displayName before with
      | [] => bare (.ofList address)
      | name => named (.ofList name) (.ofList address)

end Mailbox

end Mailroom
