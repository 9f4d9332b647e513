import Mailroom.Text.NormalForm.Tables

/-! The normal form in which every character that can be composed with the marks after it is composed. -/
namespace Mailroom.Text.NormalForm

def combiningClass (c : Char) : Nat :=
  if c.toNat < 0x300 then 0
  else match classTable.get? c with
    | some [n] => n
    | _ => 0

def syllableBase : Nat := 0xAC00

def leadBase : Nat := 0x1100

def vowelBase : Nat := 0x1161

def tailBase : Nat := 0x11A7

def vowelCount : Nat := 21

def tailCount : Nat := 28

def syllableCount : Nat := 19 * vowelCount * tailCount

def decomposeSyllable (index : Nat) : List Char :=
  let lead := Char.ofNat (leadBase + index / (vowelCount * tailCount))
  let vowel := Char.ofNat (vowelBase + index % (vowelCount * tailCount) / tailCount)
  let tail := index % tailCount
  if tail = 0 then [lead, vowel] else [lead, vowel, Char.ofNat (tailBase + tail)]

/-- A character taken apart as far as possible. -/
def decompose (c : Char) : List Char :=
  let n := c.toNat
  if n < 0xC0 then [c]
  else if syllableBase ≤ n && n < syllableBase + syllableCount then
    decomposeSyllable (n - syllableBase)
  else match decompositionTable.get? c with
    | some ns => ns.map Char.ofNat
    | none => [c]

/-- Puts a mark before the marks of its class and of higher ones. -/
def insertMark (c : Char) : List Char → List Char
  | [] => [c]
  | d :: r =>
    let k := combiningClass d
    if 0 < k && k < combiningClass c then d :: insertMark c r else c :: d :: r

def order : List Char → List Char
  | [] => []
  | c :: r => if combiningClass c = 0 then c :: order r else insertMark c (order r)

/-- The value of a number in a list of pairs laid end to end. -/
def lookupPair (n : Nat) : List Nat → Option Nat
  | key :: value :: r => if key = n then some value else lookupPair n r
  | _ => none

def composePair? (first second : Char) : Option Char :=
  let a := first.toNat
  let b := second.toNat
  if leadBase ≤ a && a < leadBase + 19 && vowelBase ≤ b && b < vowelBase + vowelCount then
    some (Char.ofNat (syllableBase + ((a - leadBase) * vowelCount + (b - vowelBase)) * tailCount))
  else if syllableBase ≤ a && a < syllableBase + syllableCount &&
      (a - syllableBase) % tailCount == 0 && tailBase < b && b < tailBase + tailCount then
    some (Char.ofNat (a + (b - tailBase)))
  else do
    let pairs ← compositionTable.get? first
    return Char.ofNat (← lookupPair b pairs)

/-- Composes what follows `base` with it. `marks` are the marks after `base` that did not compose, last
first; a later mark of no higher class than the last of them cannot reach `base`. -/
def composeAfter (base : Char) (marks : List Char) : List Char → List Char
  | [] => base :: marks.reverse
  | c :: r =>
    let reaches := match marks with
      | [] => true
      | m :: _ => combiningClass m < combiningClass c
    match (if reaches then composePair? base c else none) with
    | some composed => composeAfter composed marks r
    | none =>
      if combiningClass c = 0 then base :: (marks.reverse ++ composeAfter c [] r)
      else composeAfter base (c :: marks) r

def compose : List Char → List Char
  | [] => []
  | c :: r => if combiningClass c = 0 then composeAfter c [] r else c :: compose r

def normalize (cs : List Char) : List Char :=
  if cs.all (·.toNat < 0x80) then cs else compose (order (cs.flatMap decompose))

end Mailroom.Text.NormalForm
