import Mailroom.Decimal.Unsigned
import Mailroom.Json.Cursor
import Mailroom.Text.CodeSet
import Mailroom.Text.Utf8

/-! Reading JSON text. -/
namespace Mailroom.Json

open Text (hexDigit?)

def readHex (cur : Cursor) : Except Fault (Nat × Cursor) :=
  let broken : Fault :=
    if Text.byteCount cur.rest < 4 then
      ⟨.endInString, some (Cursor.skipWhile (fun _ => true) cur.rest cur.position).position⟩
    else ⟨.badEscape, some (cur.position.afterBytes 4 cur.rest)⟩
  match cur.rest with
  | a :: b :: c :: d :: _ =>
    match hexDigit? a, hexDigit? b, hexDigit? c, hexDigit? d with
    | some a, some b, some c, some d =>
      .ok (((a * 16 + b) * 16 + c) * 16 + d, cur.next.next.next.next)
    | _, _, _, _ => .error broken
  | _ => .error broken

/-- The second escape of a surrogate pair that starts with `high`. -/
def readLowSurrogate (high : Nat) (cur : Cursor) : Except Fault (Char × Cursor) :=
  let expect (mark : Char) (cur : Cursor) : Except Fault Cursor :=
    match cur.rest with
    | [] => .error (cur.fault .endInString)
    | c :: _ => if c = mark then .ok cur.next else .error (cur.faultAhead .unfinishedPair)
  do
    let cur ← expect '\\' cur
    let cur ← expect 'u' cur
    let (low, cur) ← readHex cur
    if low < 0xDC00 || low > 0xDFFF then throw (cur.fault .loneSurrogate)
    return (Char.ofNat (0x10000 + (high - 0xD800) * 0x400 + (low - 0xDC00)), cur)

def readEscape (cur : Cursor) : Except Fault (Char × Cursor) :=
  match cur.rest with
  | [] => .error (cur.fault .endInString)
  | '"' :: _ => .ok ('"', cur.next)
  | '\\' :: _ => .ok ('\\', cur.next)
  | '/' :: _ => .ok ('/', cur.next)
  | 'b' :: _ => .ok ('\x08', cur.next)
  | 'f' :: _ => .ok ('\x0c', cur.next)
  | 'n' :: _ => .ok ('\n', cur.next)
  | 'r' :: _ => .ok ('\r', cur.next)
  | 't' :: _ => .ok ('\t', cur.next)
  | 'u' :: _ => do
    let (n, cur) ← readHex cur.next
    if 0xDC00 ≤ n && n ≤ 0xDFFF then throw (cur.fault .loneSurrogate)
    if n < 0xD800 || n > 0xDBFF then return (Char.ofNat n, cur)
    readLowSurrogate n cur
  | _ => .error (cur.faultAhead .badEscape)

/-- The characters up to the closing quotation mark, with those read so far in `done`, last first.
Each step passes a character, so the length of the rest is fuel enough. -/
def readStringFrom : (fuel : Nat) → (done : List Char) → Cursor → Except Fault (String × Cursor)
  | 0, _, cur => .error (cur.fault .endInString)
  | fuel + 1, done, cur =>
    match cur.rest with
    | [] => .error (cur.fault .endInString)
    | '"' :: _ => .ok (.ofList done.reverse, cur.next)
    | '\\' :: _ => do
      let (c, cur) ← readEscape cur.next
      readStringFrom fuel (c :: done) cur
    | c :: _ =>
      if c.toNat < 0x20 then .error (cur.faultAhead .controlCharacter)
      else readStringFrom fuel (c :: done) cur.next

def readString (cur : Cursor) : Except Fault (String × Cursor) :=
  readStringFrom (cur.rest.length + 1) [] cur

/-- Takes digits into a number of at most sixty-four bits; the rest are those from the first one that
does not fit. -/
def absorb (n : Nat) : List Char → Nat × List Char
  | [] => (n, [])
  | d :: r =>
    let m := 10 * n + (d.toNat - '0'.toNat)
    if m ≤ Decimal.maxWord64 then absorb m r else (n, d :: r)

def readScaled (negative : Bool) (significand : Nat) (power : Int) (cur : Cursor) :
    Except Fault (JsonNumber × Cursor) :=
  match Decimal.Binary64.ofDecimal? negative significand power with
  | some x => .ok (.double x, cur)
  | none => .error (cur.fault .numberOutOfRange)

def maxExponent : Nat := 2147483647

def readExponentDigits : (value : Nat) → List Char → Cursor → Option Nat × Cursor
  | n, [], cur => (some n, cur)
  | n, d :: r, cur =>
    let m := 10 * n + (d.toNat - '0'.toNat)
    if m ≤ maxExponent then readExponentDigits m r cur.next else (none, cur.next)

def readExponent (negative : Bool) (significand : Nat) (power : Int) (cur : Cursor) :
    Except Fault (JsonNumber × Cursor) :=
  let cur := cur.next
  let (down, cur) := match cur.rest with
    | '+' :: _ => (false, cur.next)
    | '-' :: _ => (true, cur.next)
    | _ => (false, cur)
  match cur.rest with
  | [] => .error (cur.fault .endInValue)
  | c :: _ =>
    if !c.isDigit then .error (cur.faultAhead .badNumber)
    else
      let (ds, after) := cur.digits
      match readExponentDigits 0 ds cur with
      | (some e, cur) => readScaled negative significand (if down then power - e else power + e) cur
      | (none, cur) =>
        if significand != 0 && !down then .error (cur.fault .numberOutOfRange)
        else .ok (.double ⟨negative, 0, -1074⟩, after)

/-- The part after the point; digits that no longer fit are ignored. -/
def readFraction (negative : Bool) (significand : Nat) (power : Int) (cur : Cursor) :
    Except Fault (JsonNumber × Cursor) :=
  let cur := cur.next
  let (ds, after) := cur.digits
  if ds.isEmpty then
    .error (cur.faultAhead (if cur.rest.isEmpty then .endInValue else .badNumber))
  else
    let (significand, left) := absorb significand ds
    let power := power - (ds.length - left.length : Nat)
    if after.atExponent then readExponent negative significand power after
    else readScaled negative significand power after

def readNumberTail (negative : Bool) (significand power : Nat) (cur : Cursor) :
    Except Fault (JsonNumber × Cursor) :=
  match cur.rest with
  | '.' :: _ => readFraction negative significand power cur
  | _ =>
    if cur.atExponent then readExponent negative significand power cur
    else if power != 0 then readScaled negative significand power cur
    else if !negative then .ok (.whole significand, cur)
    else if 0 < significand && significand ≤ Nat.pow 2 63 then .ok (.whole (-significand), cur)
    else readScaled true significand 0 cur

def readNumber (negative : Bool) (cur : Cursor) : Except Fault (JsonNumber × Cursor) :=
  match cur.rest with
  | [] => .error (cur.fault .endInValue)
  | '0' :: _ =>
    if cur.next.atDigit then .error (cur.next.faultAhead .badNumber)
    else readNumberTail negative 0 0 cur.next
  | c :: _ =>
    if !c.isDigit then .error (cur.faultAhead .badNumber)
    else
      let (ds, after) := cur.digits
      let (significand, left) := absorb 0 ds
      readNumberTail negative significand left.length after

def readWord : List Char → Cursor → Except Fault Cursor
  | [], cur => .ok cur
  | w :: ws, cur =>
    match cur.rest with
    | [] => .error (cur.fault .endInValue)
    | c :: _ => if c = w then readWord ws cur.next else .error (cur.faultAhead .unknownWord)

def readScalar (cur : Cursor) : Except Fault (Json × Cursor) :=
  match cur.rest with
  | 'n' :: _ => do return (.null, ← readWord ['u', 'l', 'l'] cur.next)
  | 't' :: _ => do return (.bool true, ← readWord ['r', 'u', 'e'] cur.next)
  | 'f' :: _ => do return (.bool false, ← readWord ['a', 'l', 's', 'e'] cur.next)
  | '"' :: _ => do
    let (s, cur) ← readString cur.next
    return (.string s, cur)
  | '-' :: _ => do
    let (n, cur) ← readNumber true cur.next
    return (.number n, cur)
  | [] => .error (cur.faultAhead .endInValue)
  | c :: _ =>
    if c.isDigit then do
      let (n, cur) ← readNumber false cur
      return (.number n, cur)
    else .error (cur.faultAhead .missingValue)

def moreItems (first : Bool) (cur : Cursor) : Except Fault (Bool × Cursor) :=
  let cur := cur.skipSpaces
  match cur.rest with
  | [] => .error (cur.faultAhead .endInList)
  | ']' :: _ => .ok (false, cur)
  | c :: _ =>
    if first then .ok (true, cur)
    else if c != ',' then .error (cur.faultAhead .missingListComma)
    else
      let cur := cur.next.skipSpaces
      match cur.rest with
      | [] => .error (cur.faultAhead .endInValue)
      | ']' :: _ => .error (cur.faultAhead .trailingComma)
      | _ => .ok (true, cur)

/-- Whether another entry follows in an object; the cursor is then after the opening quotation mark of
its key. -/
def moreEntries (first : Bool) (cur : Cursor) : Except Fault (Bool × Cursor) :=
  let cur := cur.skipSpaces
  match cur.rest with
  | [] => .error (cur.faultAhead .endInObject)
  | '}' :: _ => .ok (false, cur)
  | c :: _ =>
    if first then
      if c == '"' then .ok (true, cur.next) else .error (cur.faultAhead .keyNotString)
    else if c != ',' then .error (cur.faultAhead .missingObjectComma)
    else
      let cur := cur.next.skipSpaces
      match cur.rest with
      | [] => .error (cur.faultAhead .endInValue)
      | '"' :: _ => .ok (true, cur.next)
      | '}' :: _ => .error (cur.faultAhead .trailingComma)
      | _ => .error (cur.faultAhead .keyNotString)

def readColon (cur : Cursor) : Except Fault Cursor :=
  let cur := cur.skipSpaces
  match cur.rest with
  | [] => .error (cur.faultAhead .endInObject)
  | ':' :: _ => .ok cur.next
  | _ => .error (cur.faultAhead .missingColon)

mutual
/-- A value; `depth` is the number of containers that may still be opened, plus one. Objects keep
every entry in the order of the text. Each call passes a character or is one of two that do, so twice
the length of the rest is fuel enough. -/
def readValueFrom : (fuel depth : Nat) → Cursor → Except Fault (Json × Cursor)
  | 0, _, cur => .error (cur.fault .endInValue)
  | fuel + 1, depth, cur =>
    let cur := cur.skipSpaces
    match cur.rest with
    | '[' :: _ =>
      if depth ≤ 1 then .error (cur.faultAhead .tooDeep)
      else do
        let (items, cur) ← readItemsFrom fuel (depth - 1) true [] cur.next
        return (.array items, cur.next)
    | '{' :: _ =>
      if depth ≤ 1 then .error (cur.faultAhead .tooDeep)
      else do
        let (entries, cur) ← readEntriesFrom fuel (depth - 1) true [] cur.next
        return (.object entries, cur.next)
    | _ => readScalar cur

def readItemsFrom :
    (fuel depth : Nat) → (first : Bool) → (done : List Json) → Cursor →
      Except Fault (List Json × Cursor)
  | 0, _, _, _, cur => .error (cur.fault .endInList)
  | fuel + 1, depth, first, done, cur => do
    let (more, cur) ← moreItems first cur
    if more then
      let (v, cur) ← readValueFrom fuel depth cur
      readItemsFrom fuel depth false (v :: done) cur
    else return (done.reverse, cur)

def readEntriesFrom :
    (fuel depth : Nat) → (first : Bool) → (done : List (String × Json)) → Cursor →
      Except Fault (List (String × Json) × Cursor)
  | 0, _, _, _, cur => .error (cur.fault .endInObject)
  | fuel + 1, depth, first, done, cur => do
    let (more, cur) ← moreEntries first cur
    if more then
      let (key, cur) ← readString cur
      let cur ← readColon cur
      let (v, cur) ← readValueFrom fuel depth cur
      readEntriesFrom fuel depth false ((key, v) :: done) cur
    else return (done.reverse, cur)
end

/-- Up to 127 containers may be nested. -/
def maxDepth : Nat := 128

def readValue (depth : Nat) (cur : Cursor) : Except Fault (Json × Cursor) :=
  readValueFrom (2 * cur.rest.length + 2) depth cur

def readEnd (cur : Cursor) : Except Fault Unit :=
  let cur := cur.skipSpaces
  if cur.rest.isEmpty then .ok () else .error (cur.faultAhead .trailingCharacters)

def readWhole {α : Type} (reading : Cursor → Except Fault (α × Cursor)) (text : String) :
    Except Fault α := do
  let (v, cur) ← reading (.start text)
  readEnd cur
  return v

/-- The value of a text, its objects in key order with the last of several entries of a key. -/
def ofText (text : String) : Except Fault Json := do
  return (← readWhole (readValue maxDepth) text).sorted

end Mailroom.Json
