import Mailroom.Text.Utf8

/-! Bytes written with sixty-four characters. -/
namespace Mailroom.Mime.Base64

def digit (n : Nat) : Char :=
  if n < 26 then Char.ofNat ('A'.toNat + n)
  else if n < 52 then Char.ofNat ('a'.toNat + (n - 26))
  else if n < 62 then Char.ofNat ('0'.toNat + (n - 52))
  else if n = 62 then '+'
  else '/'

def value? (n : Nat) : Option Nat :=
  let c := Char.ofNat n
  if c.isUpper then some (n - 'A'.toNat)
  else if c.isLower then some (n - 'a'.toNat + 26)
  else if c.isDigit then some (n - '0'.toNat + 52)
  else if c = '+' then some 62
  else if c = '/' then some 63
  else none

/-- Each three bytes as four characters; the last group is filled up with signs of equality. -/
def encode : List UInt8 → List Char
  | a :: b :: c :: r =>
    digit (a.toNat / 4) :: digit (a.toNat % 4 * 16 + b.toNat / 16) ::
      digit (b.toNat % 16 * 4 + c.toNat / 64) :: digit (c.toNat % 64) :: encode r
  | [a, b] =>
    [digit (a.toNat / 4), digit (a.toNat % 4 * 16 + b.toNat / 16), digit (b.toNat % 16 * 4), '=']
  | [a] => [digit (a.toNat / 4), digit (a.toNat % 4 * 16), '=', '=']
  | [] => []

def encodeText (cs : List Char) : List Char := encode (Text.utf8 cs)

inductive Fault where
  | symbol (byte offset : Nat)
  /-- The last symbol has bits that belong to no byte. -/
  | lastSymbol (byte offset : Nat)
  | length (count : Nat)
  | padding
  deriving DecidableEq, Repr

def Fault.message : Fault → String
  | symbol byte offset => "Invalid symbol " ++ toString byte ++ ", offset " ++ toString offset ++ "."
  | lastSymbol byte offset =>
    "Invalid last symbol " ++ toString byte ++ ", offset " ++ toString offset ++ "."
  | length count => "Invalid input length: " ++ toString count
  | padding => "Invalid padding"

def symbolAt (offset byte : Nat) : Except Fault Nat :=
  match value? byte with
  | some v => .ok v
  | none => .error (.symbol byte offset)

def joinFour (a b c d : Nat) : List UInt8 :=
  [.ofNat (a * 4 + b / 16), .ofNat (b % 16 * 16 + c / 4), .ofNat (c % 4 * 64 + d)]

def pad : Nat := '='.toNat

def lastValues (offset : Nat) : (index pads : Nat) → (values : List Nat) → List Nat →
    Except Fault (List Nat × Nat)
  | _, pads, values, [] => .ok (values.reverse, pads)
  | index, pads, values, b :: r => do
    if b = pad then
      if index < 2 then throw (.symbol b (offset + index))
      lastValues offset (index + 1) (pads + 1) values r
    else if 0 < pads then throw (.symbol pad (offset + index - pads))
    else
      let v ← symbolAt (offset + index) b
      lastValues offset (index + 1) pads (v :: values) r

/-- The bytes of the last group, which has two symbols or more. -/
def decodeLast (offset : Nat) (group : List Nat) : Except Fault (List UInt8) := do
  let (values, pads) ← lastValues offset 0 0 [] group
  if !group.isEmpty && values.length < 2 then throw (.length (offset + values.length))
  if (values.length + pads) % 4 ≠ 0 then throw .padding
  let last := offset + values.length - 1
  let symbol := group.getD (values.length - 1) 0
  match values with
  | [a, b] =>
    if b % 16 ≠ 0 then throw (.lastSymbol symbol last)
    return [.ofNat (a * 4 + b / 16)]
  | [a, b, c] =>
    if c % 4 ≠ 0 then throw (.lastSymbol symbol last)
    return [.ofNat (a * 4 + b / 16), .ofNat (b % 16 * 16 + c / 4)]
  | [a, b, c, d] => return joinFour a b c d
  | _ => return []

def decodeFrom (offset : Nat) : List Nat → Except Fault (List UInt8)
  | a :: b :: c :: d :: e :: r => do
    let a ← symbolAt offset a
    let b ← symbolAt (offset + 1) b
    let c ← symbolAt (offset + 2) c
    let d ← symbolAt (offset + 3) d
    return joinFour a b c d ++ (← decodeFrom (offset + 4) (e :: r))
  | group => decodeLast offset group

/-- A symbol after the last whole group, such as a line end, is found before any other fault. -/
def decode (bytes : List UInt8) : Except Fault (List UInt8) :=
  let ns := bytes.map UInt8.toNat
  match ns.getLast? with
  | some b =>
    if ns.length % 4 = 1 && b ≠ pad && (value? b).isNone then .error (.symbol b (ns.length - 1))
    else decodeFrom 0 ns
  | none => .ok []

end Mailroom.Mime.Base64
