import Mailroom.Decimal.Binary64

/-! The fewest decimal digits that read back as the same double. -/
namespace Mailroom.Decimal

/-- Digits without trailing zeros, and the power of ten of the point: the value is
`0.digits * 10 ^ point`. -/
structure Digits where
  digits : List Char
  point : Int
  deriving DecidableEq, Repr

namespace Binary64

/-- The point `p * 10 ^ power` compared with `q / 4 * 2 ^ exponent`, both brought to whole numbers. -/
def compareDecimal (p : Nat) (power : Int) (q : Nat) (exponent : Int) : Ordering :=
  let tens (e : Int) : Nat × Nat := match e with
    | .ofNat k => (Nat.pow 10 k, 1)
    | .negSucc k => (1, Nat.pow 10 (k + 1))
  let twos (e : Int) : Nat × Nat := match e with
    | .ofNat k => (Nat.pow 2 k, 1)
    | .negSucc k => (1, Nat.pow 2 (k + 1))
  let (tn, td) := tens power
  let (bn, bd) := twos exponent
  compare (p * tn * 4 * bd) (q * bn * td)

/-- The decimal `p * 10 ^ power` rounds to the magnitude of `x`: it lies between the midpoints to the
neighbours, which themselves count when the mantissa is even. -/
def readsBack (x : Binary64) (p : Nat) (power : Int) : Bool :=
  let below := if x.mantissa == Nat.pow 2 52 && x.exponent > -1074 then 1 else 2
  let low := compareDecimal p power (4 * x.mantissa - below) x.exponent
  let high := compareDecimal p power (4 * x.mantissa + 2) x.exponent
  if x.mantissa % 2 == 0 then low != .lt && high != .gt else low == .gt && high == .lt

def floorAt (x : Binary64) (power : Int) : Nat :=
  let (n, d) : Nat × Nat := match x.exponent with
    | .ofNat k => (x.mantissa * Nat.pow 2 k, 1)
    | .negSucc k => (x.mantissa, Nat.pow 2 (k + 1))
  match power with
  | .ofNat k => n / (d * Nat.pow 10 k)
  | .negSucc k => n * Nat.pow 10 (k + 1) / d

def leadingPower (x : Binary64) : Int :=
  let guess : Int := (((x.mantissa.log2 : Int) + x.exponent) * 1233) / 4096
  if x.floorAt (guess + 1) > 0 then guess + 1
  else if x.floorAt guess > 0 then guess
  else guess - 1

/-- `p * 10 ^ power` is nearer to `x` than `(p + 1) * 10 ^ power`, or as near with `p` even. -/
def lowerIsNearer (x : Binary64) (p : Nat) (power : Int) : Bool :=
  match compareDecimal (2 * p + 1) power (8 * x.mantissa) x.exponent with
  | .gt => true
  | .lt => false
  | .eq => p % 2 == 0

/-- The neighbour of `x` on the grid of `power` that reads back, the nearer one of two. -/
def hit? (x : Binary64) (power : Int) : Option Nat :=
  let p := x.floorAt power
  match x.readsBack p power, x.readsBack (p + 1) power with
  | true, true => some (if x.lowerIsNearer p power then p else p + 1)
  | true, false => some p
  | false, true => some (p + 1)
  | false, false => none

def firstHit (x : Binary64) (lead : Int) : (fuel count : Nat) → Nat × Int
  | 0, count => (x.floorAt (lead + 1 - count), lead + 1 - count)
  | fuel + 1, count =>
    match x.hit? (lead + 1 - count) with
    | some p => (p, lead + 1 - count)
    | none => firstHit x lead fuel (count + 1)

def shortest (x : Binary64) : Digits :=
  if x.isZero then ⟨['0'], 1⟩
  else
    let (p, power) := x.firstHit x.leadingPower 17 1
    let digits := (toString p).toList
    ⟨(digits.reverse.dropWhile (· == '0')).reverse, digits.length + power⟩

/-- Positional notation holds for 1e-5 ≤ x < 1e16 and for zero, a whole number ends in `.0`; any other
number has one digit before the point and an exponent with its sign. -/
def render (x : Binary64) : String :=
  let ⟨digits, point⟩ := x.shortest
  let count : Int := digits.length
  let zeros (n : Int) := List.replicate n.toNat '0'
  let text : List Char :=
    if 0 < point && point ≤ 16 then
      if count ≤ point then digits ++ zeros (point - count) ++ ['.', '0']
      else digits.take point.toNat ++ '.' :: digits.drop point.toNat
    else if -5 < point && point ≤ 0 then '0' :: '.' :: (zeros (-point) ++ digits)
    else
      let exponent := point - 1
      let sign := if exponent < 0 then '-' else '+'
      let head := match digits with
        | [d] => [d]
        | d :: r => d :: '.' :: r
        | [] => []
      head ++ 'e' :: sign :: (toString exponent.natAbs).toList
  .ofList (if x.negative then '-' :: text else text)

end Binary64

end Mailroom.Decimal
