import Mailroom.Decimal.Unsigned

/-! Spans of time. -/
namespace Mailroom

structure Duration where
  nanoseconds : Nat
  deriving DecidableEq, Repr

namespace Duration

def ofSeconds (n : Nat) : Duration := ⟨n * 1000000000⟩

def ofMillis (n : Nat) : Duration := ⟨n * 1000000⟩

def millis (d : Duration) : Nat := d.nanoseconds / 1000000

/-- The span rounded up to whole milliseconds, at most as many as a number of sixty-four bits holds. -/
def roundUp (d : Duration) : Duration :=
  ofMillis (min Decimal.maxWord64 ((d.nanoseconds + 999999) / 1000000))

def decimalText (whole part unit : Nat) : String :=
  if part = 0 then toString whole
  else
    let digits := (toString (unit + part)).toList.drop 1
    toString whole ++ "." ++ .ofList (digits.reverse.dropWhile (· == '0')).reverse

def text (d : Duration) : String :=
  let n := d.nanoseconds
  if 1000000000 ≤ n then decimalText (n / 1000000000) (n % 1000000000) 1000000000 ++ "s"
  else if 1000000 ≤ n then decimalText (n / 1000000) (n % 1000000) 1000000 ++ "ms"
  else if 1000 ≤ n then decimalText (n / 1000) (n % 1000) 1000 ++ "µs"
  else toString n ++ "ns"

end Duration

end Mailroom
