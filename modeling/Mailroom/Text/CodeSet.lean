/-! Sets and maps of code points, written down as compact tables of hexadecimal numbers. -/
namespace Mailroom.Text

def hexDigit? (c : Char) : Option Nat :=
  if '0' ≤ c ∧ c ≤ '9' then some (c.toNat - '0'.toNat)
  else if 'A' ≤ c ∧ c ≤ 'F' then some (c.toNat - 'A'.toNat + 10)
  else if 'a' ≤ c ∧ c ≤ 'f' then some (c.toNat - 'a'.toNat + 10)
  else none

/-- What has been read of a table: the finished entries, the numbers of the entry under way (last
first) and the number under way. -/
structure TableScan where
  entries : Array (List Nat) := #[]
  entry : List Nat := []
  number : Option Nat := none

def TableScan.endNumber (s : TableScan) : TableScan :=
  match s.number with
  | none => s
  | some n => { s with entry := n :: s.entry, number := none }

def TableScan.endEntry (s : TableScan) : TableScan :=
  let s := s.endNumber
  match s.entry with
  | [] => s
  | ns => { s with entries := s.entries.push ns.reverse, entry := [] }

/-- A digit extends the number, a space or line end closes the entry, any other mark closes the
number only. -/
def TableScan.step (s : TableScan) (c : Char) : TableScan :=
  match hexDigit? c with
  | some d => { s with number := some (16 * s.number.getD 0 + d) }
  | none => if c == ' ' || c == '\n' then s.endEntry else s.endNumber

/-- The entries of a table: separated by blanks, each a few hexadecimal numbers with single marks
between them. -/
def readTable (text : String) : Array (List Nat) :=
  (text.foldl TableScan.step {}).endEntry.entries

/-- A set of code points: disjoint closed intervals in increasing order. -/
structure CodeSet where
  intervals : Array (Nat × Nat)

def CodeSet.ofTable (text : String) : CodeSet where
  intervals := (readTable text).filterMap fun
    | [first] => some (first, first)
    | [first, last] => some (first, last)
    | _ => none

/-- Halves the range of indices that may hold `n`; `fuel` bounds the number of halvings. -/
def CodeSet.searchFrom (s : CodeSet) (n : Nat) : (fuel low high : Nat) → Bool
  | 0, _, _ => false
  | fuel + 1, low, high =>
    if low < high then
      let middle := (low + high) / 2
      match s.intervals[middle]? with
      | none => false
      | some (first, last) =>
        if n < first then s.searchFrom n fuel low middle
        else if last < n then s.searchFrom n fuel (middle + 1) high
        else true
    else false

def CodeSet.contains (s : CodeSet) (c : Char) : Bool :=
  s.searchFrom c.toNat s.intervals.size 0 s.intervals.size

structure CodeMap where
  entries : Array (Nat × List Nat)

def CodeMap.ofTable (text : String) : CodeMap where
  entries := (readTable text).filterMap fun
    | [] => none
    | key :: value => some (key, value)

def CodeMap.searchFrom (m : CodeMap) (n : Nat) : (fuel low high : Nat) → Option (List Nat)
  | 0, _, _ => none
  | fuel + 1, low, high =>
    if low < high then
      let middle := (low + high) / 2
      match m.entries[middle]? with
      | none => none
      | some (key, value) =>
        if n < key then m.searchFrom n fuel low middle
        else if key < n then m.searchFrom n fuel (middle + 1) high
        else some value
    else none

def CodeMap.get? (m : CodeMap) (c : Char) : Option (List Nat) :=
  m.searchFrom c.toNat m.entries.size 0 m.entries.size

end Mailroom.Text
