/-! Unsigned numbers in decimal text. -/
namespace Mailroom.Decimal

def valueOf (digits : List Char) : Nat :=
  digits.foldl (fun n c => 10 * n + (c.toNat - '0'.toNat)) 0

/-- Reads an optional plus sign and one or more ASCII digits, and refuses a value above `limit`. -/
def readUnsigned? (limit : Nat) (cs : List Char) : Option Nat :=
  let digits := match cs with
    | '+' :: r => r
    | _ => cs
  if digits.isEmpty || !digits.all Char.isDigit then none
  else
    let n := valueOf digits
    if n ≤ limit then some n else none

def maxWord16 : Nat := 65535

def maxWord64 : Nat := 18446744073709551615

end Mailroom.Decimal
