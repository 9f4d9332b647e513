import Mailroom.Json.Basic
import Mailroom.Text.Blank

/-! JSON text. -/
namespace Mailroom.Json

open Text (newLine)

def hexDigit (n : Nat) : Char := Nat.digitChar n

/-- A character inside a JSON string. Quotation marks, backslashes and controls are escaped, the
common controls by a letter. -/
def escape (c : Char) : List Char :=
  match c with
  | '"' => ['\\', '"']
  | '\\' => ['\\', '\\']
  | '\x08' => ['\\', 'b']
  | '\x0c' => ['\\', 'f']
  | '\n' => ['\\', 'n']
  | '\r' => ['\\', 'r']
  | '\t' => ['\\', 't']
  | _ =>
    if c.toNat < 0x20 then ['\\', 'u', '0', '0', hexDigit (c.toNat / 16), hexDigit (c.toNat % 16)]
    else [c]

def quoted (s : String) : String :=
  .ofList ('"' :: (s.toList.flatMap escape ++ ['"']))

mutual
def compact : Json → String
  | null => "null"
  | bool b => if b then "true" else "false"
  | number n => n.render
  | string s => quoted s
  | array items => "[" ++ compactItems items ++ "]"
  | object entries => "\x7b" ++ compactEntries entries ++ "\x7d"

def compactItems : List Json → String
  | [] => ""
  | [v] => compact v
  | v :: r => compact v ++ "," ++ compactItems r

def compactEntries : List (String × Json) → String
  | [] => ""
  | [(k, v)] => quoted k ++ ":" ++ compact v
  | (k, v) :: r => quoted k ++ ":" ++ compact v ++ "," ++ compactEntries r
end

mutual
/-- The value with every item and entry on a line of its own; an empty container stays on its line. -/
def prettyAt (level : Nat) : Json → String
  | array [] => "[]"
  | array (v :: r) =>
    "[" ++ newLine 2 (level + 1) ++ prettyAt (level + 1) v ++ prettyItems (level + 1) r
      ++ newLine 2 level ++ "]"
  | object [] => "\x7b\x7d"
  | object ((k, v) :: r) =>
    "\x7b" ++ newLine 2 (level + 1) ++ quoted k ++ ": " ++ prettyAt (level + 1) v
      ++ prettyEntries (level + 1) r ++ newLine 2 level ++ "\x7d"
  | null => "null"
  | bool b => if b then "true" else "false"
  | number n => n.render
  | string s => quoted s

def prettyItems (level : Nat) : List Json → String
  | [] => ""
  | v :: r => "," ++ newLine 2 level ++ prettyAt level v ++ prettyItems level r

def prettyEntries (level : Nat) : List (String × Json) → String
  | [] => ""
  | (k, v) :: r =>
    "," ++ newLine 2 level ++ quoted k ++ ": " ++ prettyAt level v ++ prettyEntries level r
end

def pretty (v : Json) : String := prettyAt 0 v

end Mailroom.Json
