/-! Finite double-precision numbers as exact values, with rounding to the nearest one. -/
namespace Mailroom.Decimal

/-- The number `mantissa * 2 ^ exponent`, or its negative. A value that `nearest` returns has at most
53 bits, and fewer than 53 only at the least exponent, -1074. -/
structure Binary64 where
  negative : Bool
  mantissa : Nat
  exponent : Int
  deriving DecidableEq, Repr

namespace Binary64

def isZero (x : Binary64) : Bool := x.mantissa == 0

def withSign (x : Binary64) (negative : Bool) : Binary64 := { x with negative }

/-- `num / den` in units of `2 ^ exponent`, as a whole part with its remainder and their divisor. -/
def inUnits (num den : Nat) (exponent : Int) : Nat × Nat × Nat :=
  match exponent with
  | .ofNat e => let d := den * Nat.pow 2 e; (num / d, num % d, d)
  | .negSucc e => let n := num * Nat.pow 2 (e + 1); (n / den, n % den, den)

/-- A quotient rounded to a whole number, a tie to the even neighbour. -/
def roundWhole (whole rest divisor : Nat) : Nat :=
  if 2 * rest > divisor || (2 * rest == divisor && whole % 2 == 1) then whole + 1 else whole

/-- The exponent at which `num / den` has 53 bits before the point, but not below -1074. -/
def unitExponent (num den : Nat) : Int :=
  let guess : Int := (num.log2 : Int) - (den.log2 : Int) - 52
  let fitted := if (inUnits num den guess).1 < Nat.pow 2 52 then guess - 1 else guess
  max fitted (-1074)

/-- The double nearest to the positive quotient `num / den`, or none where it is too large. -/
def nearest? (num den : Nat) : Option Binary64 :=
  if num == 0 then some ⟨false, 0, -1074⟩
  else
    let e := unitExponent num den
    let (whole, rest, divisor) := inUnits num den e
    let m := roundWhole whole rest divisor
    let (m, e) := if m == Nat.pow 2 53 then (Nat.pow 2 52, e + 1) else (m, e)
    if e > 971 then none else some ⟨false, m, e⟩

def nearestScaled? (m : Nat) (e : Int) (d : Nat) : Option Binary64 :=
  match e with
  | .ofNat k => nearest? (m * Nat.pow 2 k) d
  | .negSucc k => nearest? m (d * Nat.pow 2 (k + 1))

def times? (x y : Binary64) : Option Binary64 :=
  nearestScaled? (x.mantissa * y.mantissa) (x.exponent + y.exponent) 1

def over? (x y : Binary64) : Option Binary64 :=
  nearestScaled? x.mantissa (x.exponent - y.exponent) y.mantissa

/-- The magnitude of a product with a power of ten: the whole number, the power and their product or
quotient are each rounded, and a negative power below -308 is divided out 308 at a time. `fuel` bounds
the number of such steps; a magnitude is zero after three. -/
def scale? (x : Binary64) : (fuel : Nat) → (power : Int) → Option Binary64
  | 0, _ => none
  | fuel + 1, power =>
    if power.natAbs ≤ 308 then do
      let p ← nearest? (Nat.pow 10 power.natAbs) 1
      if 0 ≤ power then x.times? p else x.over? p
    else if x.isZero then some x
    else if 0 ≤ power then none
    else do
      let p ← nearest? (Nat.pow 10 308) 1
      scale? (← x.over? p) fuel (power + 308)

def ofDecimal? (negative : Bool) (significand : Nat) (power : Int) : Option Binary64 := do
  let x ← nearest? significand 1
  return (← x.scale? 8 power).withSign negative

end Binary64

end Mailroom.Decimal
