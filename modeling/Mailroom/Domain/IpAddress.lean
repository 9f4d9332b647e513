import Mailroom.Decimal.Unsigned
import Mailroom.Text.CodeSet
import Mailroom.Text.Split

/-! Addresses of hosts by number. -/
namespace Mailroom.Domain

open Text

/-- One of the four parts of an address of 32 bits: at most three digits, no zero in front, at most
255. -/
def isOctet (part : List Char) : Bool :=
  match part with
  | [] => false
  | ['0'] => true
  | '0' :: _ => false
  | _ => part.length ≤ 3 && part.all Char.isDigit && Decimal.valueOf part ≤ 255

def isIpv4 (cs : List Char) : Bool :=
  let parts := splitAt (· == '.') cs
  parts.length == 4 && parts.all isOctet

def isGroup (part : List Char) : Bool :=
  1 ≤ part.length && part.length ≤ 4 && part.all fun c => (hexDigit? c).isSome

/-- The number of groups in a row of them with colons between; with `tail`, the last may be an address
of 32 bits, which counts as two. -/
def groupCount? (tail : Bool) : List (List Char) → Option Nat
  | [] => some 0
  | [last] => if isGroup last then some 1 else if tail && isIpv4 last then some 2 else none
  | part :: r => if isGroup part then (groupCount? tail r).map (· + 1) else none

def sideCount? (tail : Bool) (cs : List Char) : Option Nat :=
  if cs.isEmpty then some 0 else groupCount? tail (splitAt (· == ':') cs)

def cutGap? : List Char → Option (List Char × List Char)
  | ':' :: ':' :: r => some ([], r)
  | c :: r => (cutGap? r).map fun (a, b) => (c :: a, b)
  | [] => none

/-- Eight groups, or fewer with a gap of two colons for one group of zeros or more. -/
def isIpv6 (cs : List Char) : Bool :=
  match cutGap? cs with
  | none => sideCount? true cs == some 8
  | some (before, after) =>
    match sideCount? false before, sideCount? true after with
    | some a, some b => a + b ≤ 7
    | _, _ => false

def isIpAddress (cs : List Char) : Bool := isIpv4 cs || isIpv6 cs

end Mailroom.Domain
