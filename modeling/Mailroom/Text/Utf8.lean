/-! Text as bytes, and bytes as text. -/
namespace Mailroom.Text

def byteCount : List Char → Nat
  | [] => 0
  | c :: r => c.utf8Size + byteCount r

def isAscii (cs : List Char) : Bool := cs.all (·.toNat < 0x80)

def utf8 (cs : List Char) : List UInt8 := cs.flatMap String.utf8EncodeChar

/-- Bytes that are no text: up to `start` they are one; there follow `length` bytes that begin no
character, or, without a length, the beginning of a character that breaks off. -/
structure Utf8Fault where
  start : Nat
  length : Option Nat
  deriving DecidableEq, Repr

def Utf8Fault.message (f : Utf8Fault) : String :=
  match f.length with
  | some n =>
    "invalid utf-8 sequence of " ++ toString n ++ " bytes from index " ++ toString f.start
  | none => "incomplete utf-8 byte sequence from index " ++ toString f.start

def isContinuation (b : Nat) : Bool := 0x80 ≤ b && b < 0xC0

def leadRange? (lead : Nat) : Option ((Nat × Nat) × Nat) :=
  if 0xC2 ≤ lead && lead ≤ 0xDF then some ((0x80, 0xBF), 1)
  else if lead = 0xE0 then some ((0xA0, 0xBF), 2)
  else if lead = 0xED then some ((0x80, 0x9F), 2)
  else if 0xE1 ≤ lead && lead ≤ 0xEF then some ((0x80, 0xBF), 2)
  else if lead = 0xF0 then some ((0x90, 0xBF), 3)
  else if lead = 0xF4 then some ((0x80, 0x8F), 3)
  else if 0xF1 ≤ lead && lead ≤ 0xF3 then some ((0x80, 0xBF), 3)
  else none

/-- Takes `count` continuation bytes into a value; otherwise the number of them that were there, and
whether the bytes then end. -/
def takeContinuations (value : Nat) : (count taken : Nat) → List Nat →
    Except (Nat × Bool) (Nat × List Nat)
  | 0, _, bs => .ok (value, bs)
  | _ + 1, taken, [] => .error (taken, true)
  | count + 1, taken, b :: r =>
    if isContinuation b then takeContinuations (value * 64 + b % 64) count (taken + 1) r
    else .error (taken, false)

def leadBits (lead count : Nat) : Nat :=
  match count with
  | 1 => lead % 32
  | 2 => lead % 16
  | _ => lead % 8

def readMultibyte (start lead : Nat) (rest : List Nat) : Except Utf8Fault (Char × List Nat) :=
  match leadRange? lead with
  | none => .error ⟨start, some 1⟩
  | some ((low, high), count) =>
    match rest with
    | [] => .error ⟨start, none⟩
    | b :: r =>
      if b < low || high < b then .error ⟨start, some 1⟩
      else match takeContinuations (leadBits lead count * 64 + b % 64) (count - 1) 2 r with
        | .ok (value, r) => .ok (Char.ofNat value, r)
        | .error (_, true) => .error ⟨start, none⟩
        | .error (taken, false) => .error ⟨start, some taken⟩

/-- Reads characters from a place on; each takes a byte, so the number of bytes is fuel enough. -/
def readUtf8From : (fuel start : Nat) → List Nat → Except Utf8Fault (List Char)
  | _, _, [] => .ok []
  | 0, start, _ :: _ => .error ⟨start, none⟩
  | fuel + 1, start, b :: r =>
    if b < 0x80 then do return Char.ofNat b :: (← readUtf8From fuel (start + 1) r)
    else do
      let (c, rest) ← readMultibyte start b r
      return c :: (← readUtf8From fuel (start + c.utf8Size) rest)

def readUtf8 (bytes : List UInt8) : Except Utf8Fault (List Char) :=
  readUtf8From bytes.length 0 (bytes.map UInt8.toNat)

end Mailroom.Text
