import Mailroom.Text.Blank
import Mailroom.Text.Quoted

/-! Values laid out for inspection, on one line or over several. -/
namespace Mailroom.Text

/-- A value to be shown. -/
inductive Shown where
  /-- A word, a number or a quoted string. -/
  | atom (text : String)
  | tuple (name : String) (fields : List Shown)
  /-- With `more`, the record has fields that are not shown. -/
  | record (name : String) (fields : List (String × Shown)) (more : Bool := false)
  | list (items : List Shown)
  | table (entries : List (String × Shown))
  deriving Repr

namespace Shown

def string (s : String) : Shown := atom (showString s)

def nat (n : Nat) : Shown := atom (toString n)

def bool (b : Bool) : Shown := atom (if b then "true" else "false")

def option {α : Type} (shown : α → Shown) : Option α → Shown
  | none => atom "None"
  | some x => tuple "Some" [shown x]

mutual
def line : Shown → String
  | atom text => text
  | tuple name fields => name ++ "(" ++ lineItems fields ++ ")"
  | record name [] false => name
  | record name [] true => name ++ " \x7b .. \x7d"
  | record name fields more =>
    name ++ " \x7b " ++ lineFields fields ++ (if more then ", .. \x7d" else " \x7d")
  | list items => "[" ++ lineItems items ++ "]"
  | table entries => "\x7b" ++ lineEntries entries ++ "\x7d"

def lineItems : List Shown → String
  | [] => ""
  | [v] => line v
  | v :: r => line v ++ ", " ++ lineItems r

def lineFields : List (String × Shown) → String
  | [] => ""
  | [(name, v)] => name ++ ": " ++ line v
  | (name, v) :: r => name ++ ": " ++ line v ++ ", " ++ lineFields r

def lineEntries : List (String × Shown) → String
  | [] => ""
  | [(key, v)] => showString key ++ ": " ++ line v
  | (key, v) :: r => showString key ++ ": " ++ line v ++ ", " ++ lineEntries r
end

mutual
/-- The value with every part on a line of its own, which ends in a comma. -/
def blockAt (level : Nat) : Shown → String
  | atom text => text
  | tuple name fields => name ++ "(" ++ blockItems (level + 1) fields ++ newLine 4 level ++ ")"
  | record name [] false => name
  | record name [] true => name ++ " \x7b .. \x7d"
  | record name fields more =>
    name ++ " \x7b" ++ blockFields (level + 1) fields
      ++ (if more then newLine 4 (level + 1) ++ ".." else "") ++ newLine 4 level ++ "\x7d"
  | list [] => "[]"
  | list items => "[" ++ blockItems (level + 1) items ++ newLine 4 level ++ "]"
  | table [] => "\x7b\x7d"
  | table entries => "\x7b" ++ blockEntries (level + 1) entries ++ newLine 4 level ++ "\x7d"

def blockItems (level : Nat) : List Shown → String
  | [] => ""
  | v :: r => newLine 4 level ++ blockAt level v ++ "," ++ blockItems level r

def blockFields (level : Nat) : List (String × Shown) → String
  | [] => ""
  | (name, v) :: r => newLine 4 level ++ name ++ ": " ++ blockAt level v ++ "," ++ blockFields level r

def blockEntries (level : Nat) : List (String × Shown) → String
  | [] => ""
  | (key, v) :: r =>
    newLine 4 level ++ showString key ++ ": " ++ blockAt level v ++ "," ++ blockEntries level r
end

def block (v : Shown) : String := blockAt 0 v

end Shown

end Mailroom.Text
