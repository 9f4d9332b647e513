import Mailroom.Mime.Writer

/-! Bytes written in characters that every line of mail can hold. -/
namespace Mailroom.Mime.QuotedPrintable

inductive Piece where
  | unit (cs : List Char)
  | lineEnd
  deriving DecidableEq, Repr

def escape (b : UInt8) : List Char :=
  let digit (n : Nat) : Char := (Nat.digitChar n).toUpper
  ['=', digit (b.toNat / 16), digit (b.toNat % 16)]

def atLineEnd : List UInt8 → Bool
  | [] => true
  | 13 :: 10 :: _ => true
  | _ => false

/-- A byte before `rest`. Spaces and tabs are escaped at the end of a line. -/
def unit (b : UInt8) (rest : List UInt8) : List Char :=
  if b = 61 then escape b
  else if b = 9 || b = 32 then
    if atLineEnd rest then escape b else [Char.ofNat b.toNat]
  else if 33 ≤ b && b ≤ 126 then [Char.ofNat b.toNat]
  else escape b

def pieces : List UInt8 → List Piece
  | [] => []
  | 13 :: 10 :: r => .lineEnd :: pieces r
  | b :: r => .unit (unit b r) :: pieces r

def softBreak : List Char := ['=', '\r', '\n']

/-- Lays out pieces in lines. `last` is the unit at the end of the line so far, not written yet, and
`column` the length of the line with it. A full line is broken before its last unit, to make room for
the mark of the break. -/
def layOut (last : List Char) (column : Nat) : List Piece → List Char
  | [] => last
  | .lineEnd :: r => last ++ ['\r', '\n'] ++ layOut [] 0 r
  | .unit u :: r =>
    if column + u.length ≤ maxLine then last ++ layOut u (column + u.length) r
    else if column = maxLine then softBreak ++ last ++ layOut u (last.length + u.length) r
    else last ++ softBreak ++ layOut u u.length r

def encode (bytes : List UInt8) : List Char := layOut [] 0 (pieces bytes)

end Mailroom.Mime.QuotedPrintable
