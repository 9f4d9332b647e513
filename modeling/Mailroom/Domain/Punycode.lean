import Mailroom.Text.Split

/-! Labels of any characters written in ASCII: the ASCII characters first, then the positions and values
of the others as numbers of variable length in base 36. -/
namespace Mailroom.Domain.Punycode

def base : Nat := 36

def digitChar (d : Nat) : Char :=
  if d < 26 then Char.ofNat ('a'.toNat + d) else Char.ofNat ('0'.toNat + (d - 26))

def digitValue? (c : Char) : Option Nat :=
  if c.isLower then some (c.toNat - 'a'.toNat)
  else if c.isUpper then some (c.toNat - 'A'.toNat)
  else if c.isDigit then some (c.toNat - '0'.toNat + 26)
  else none

/-- A digit below the threshold of its position is the last of its number. -/
def threshold (position bias : Nat) : Nat := max 1 (min 26 (position - bias))

def shrink (delta steps : Nat) : Nat × Nat :=
  if 455 < delta then shrink (delta / 35) (steps + base) else (delta, steps)
termination_by delta
decreasing_by omega

/-- The bias for the number after one of value `delta`, with `count` characters placed. -/
def adapt (delta count : Nat) (first : Bool) : Nat :=
  let delta := if first then delta / 700 else delta / 2
  let (delta, steps) := shrink (delta + delta / count) 0
  steps + base * delta / (delta + 38)

/-! ### Writing -/

def digits (bias position n : Nat) : List Char :=
  let t := threshold position bias
  if n < t then [digitChar n]
  else digitChar (t + (n - t) % (base - t)) :: digits bias (position + base) ((n - t) / (base - t))
termination_by n
decreasing_by
  have ht : 1 ≤ threshold position bias := by unfold threshold; omega
  exact Nat.lt_of_le_of_lt (Nat.div_le_self _ _) (by omega)

/-- Where writing stands: the text so far, the difference since the last character written, the bias,
and the number of characters written. -/
structure Writing where
  text : List Char
  delta : Nat
  bias : Nat
  count : Nat

def Writing.pass (start value : Nat) (w : Writing) (c : Char) : Writing :=
  if c.toNat < value then { w with delta := w.delta + 1 }
  else if c.toNat = value then
    { text := w.text ++ digits w.bias base w.delta
      delta := 0
      bias := adapt w.delta (w.count + 1) (w.count == start)
      count := w.count + 1 }
  else w

def leastFrom? (low : Nat) (ns : List Nat) : Option Nat :=
  (ns.filter (low ≤ ·)).min?

/-- One round for each value from `low` on; `fuel` is the number of rounds. -/
def writeFrom (label : List Char) (start : Nat) : (fuel low : Nat) → Writing → Writing
  | 0, _, w => w
  | fuel + 1, low, w =>
    match leastFrom? low (label.map Char.toNat) with
    | none => w
    | some value =>
      let w := { w with delta := w.delta + (value - low) * (w.count + 1) }
      let w := label.foldl (Writing.pass start value) w
      writeFrom label start fuel (value + 1) { w with delta := w.delta + 1 }

def encode (label : List Char) : List Char :=
  let plain := label.filter (·.toNat < 0x80)
  let lead := if plain.isEmpty then [] else plain ++ ['-']
  (writeFrom label plain.length label.length 0x80 ⟨lead, 0, 72, plain.length⟩).text

/-! ### Reading -/

def readNumber? (bias : Nat) : (position weight sum : Nat) → List Char → Option (Nat × List Char)
  | _, _, _, [] => none
  | position, weight, sum, c :: r => do
    let d ← digitValue? c
    let t := threshold position bias
    if d < t then return (sum + d * weight, r)
    else readNumber? bias (position + base) (weight * (base - t)) (sum + d * weight) r

/-- Places a character for each number that is left of the text; `fuel` is the length of the text. -/
def readFrom? : (fuel value index bias : Nat) → (first : Bool) → (placed : List Char) →
    List Char → Option (List Char)
  | _, _, _, _, _, placed, [] => some placed
  | 0, _, _, _, _, _, _ :: _ => none
  | fuel + 1, value, index, bias, first, placed, text => do
    let (sum, rest) ← readNumber? bias base 1 index text
    let count := placed.length + 1
    let value := value + sum / count
    if value.isValidChar then
      let next := sum % count
      let placed := placed.take next ++ Char.ofNat value :: placed.drop next
      readFrom? fuel value (next + 1) (adapt (sum - index) count first) false placed rest
    else none

def decode? (text : List Char) : Option (List Char) :=
  match Text.cutLast? (· == '-') text with
  | some (c :: plain, rest) => readFrom? rest.length 0x80 0 72 true (c :: plain) rest
  | _ => readFrom? text.length 0x80 0 72 true [] text

end Mailroom.Domain.Punycode
