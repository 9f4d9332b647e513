import Mailroom.Text.Printable

/-! Strings as they are shown to a person who looks for hidden characters. -/
namespace Mailroom.Text

/-- A character inside a shown string: quotation marks, backslashes and everything that would not be
seen as a character of its own are escaped. -/
def showChar (c : Char) : List Char :=
  match c with
  | '\x00' => ['\\', '0']
  | '\t' => ['\\', 't']
  | '\r' => ['\\', 'r']
  | '\n' => ['\\', 'n']
  | '"' => ['\\', '"']
  | '\\' => ['\\', '\\']
  | _ =>
    if isPrintable c then [c]
    else ['\\', 'u', '{'] ++ Nat.toDigits 16 c.toNat ++ ['}']

def showString (s : String) : String :=
  .ofList ('"' :: (s.toList.flatMap showChar ++ ['"']))

end Mailroom.Text
