import Mailroom.Json.Reader

/-! Passing over a value that is not asked for. Containers may be nested to any depth, and a number of
any size is passed. -/
namespace Mailroom.Json

def skipDigits (cur : Cursor) : Except Fault Cursor :=
  if cur.atDigit then .ok cur.digits.2 else .error (cur.faultAhead .badNumber)

def skipExponent (cur : Cursor) : Except Fault Cursor :=
  if cur.atExponent then
    match cur.next.rest with
    | '+' :: _ => skipDigits cur.next.next
    | '-' :: _ => skipDigits cur.next.next
    | _ => skipDigits cur.next
  else .ok cur

def skipNumber (cur : Cursor) : Except Fault Cursor := do
  let whole ← match cur.rest with
    | '0' :: _ =>
      if cur.next.atDigit then throw (cur.next.faultAhead .badNumber) else pure cur.next
    | _ => skipDigits cur
  match whole.rest with
  | '.' :: _ => skipExponent (← skipDigits whole.next)
  | _ => skipExponent whole

/-- Passes an escape whose backslash has been passed; surrogates need not be paired. -/
def skipEscape (cur : Cursor) : Except Fault Cursor :=
  match cur.rest with
  | [] => .error (cur.fault .endInString)
  | 'u' :: _ => do return (← readHex cur.next).2
  | c :: _ =>
    if ['"', '\\', '/', 'b', 'f', 'n', 'r', 't'].contains c then .ok cur.next
    else .error (cur.faultAhead .badEscape)

def skipStringFrom : (fuel : Nat) → Cursor → Except Fault Cursor
  | 0, cur => .error (cur.fault .endInString)
  | fuel + 1, cur =>
    match cur.rest with
    | [] => .error (cur.fault .endInString)
    | '"' :: _ => .ok cur.next
    | '\\' :: _ => do skipStringFrom fuel (← skipEscape cur.next)
    | c :: _ =>
      if c.toNat < 0x20 then .error (cur.fault .controlCharacter) else skipStringFrom fuel cur.next

def skipString (cur : Cursor) : Except Fault Cursor :=
  skipStringFrom (cur.rest.length + 1) cur

def skipScalar (cur : Cursor) : Except Fault Cursor :=
  match cur.rest with
  | 'n' :: _ => readWord ['u', 'l', 'l'] cur.next
  | 't' :: _ => readWord ['r', 'u', 'e'] cur.next
  | 'f' :: _ => readWord ['a', 'l', 's', 'e'] cur.next
  | '"' :: _ => skipString cur.next
  | '-' :: _ => skipNumber cur.next
  | [] => .error (cur.faultAhead .endInValue)
  | c :: _ => if c.isDigit then skipNumber cur else .error (cur.faultAhead .missingValue)

def skipKey (cur : Cursor) : Except Fault Cursor :=
  let cur := cur.skipSpaces
  match cur.rest with
  | [] => .error (cur.faultAhead .endInObject)
  | '"' :: _ => do readColon (← skipString cur.next)
  | _ => .error (cur.faultAhead .keyNotString)

mutual
/-- Passes a value. Each call passes a character or is one of two that do, so twice the length of the
rest is fuel enough. -/
def skipValueFrom : (fuel : Nat) → Cursor → Except Fault Cursor
  | 0, cur => .error (cur.fault .endInValue)
  | fuel + 1, cur =>
    let cur := cur.skipSpaces
    match cur.rest with
    | '[' :: _ => skipItemsFrom fuel true cur.next
    | '{' :: _ => skipEntriesFrom fuel true cur.next
    | _ => skipScalar cur

def skipItemsFrom : (fuel : Nat) → (first : Bool) → Cursor → Except Fault Cursor
  | 0, _, cur => .error (cur.fault .endInList)
  | fuel + 1, first, cur =>
    let cur := cur.skipSpaces
    match cur.rest with
    | [] => .error (cur.faultAhead .endInList)
    | ']' :: _ => .ok cur.next
    | c :: _ =>
      if first then do skipItemsFrom fuel false (← skipValueFrom fuel cur)
      else if c = ',' then do skipItemsFrom fuel false (← skipValueFrom fuel cur.next)
      else .error (cur.faultAhead .missingListComma)

def skipEntriesFrom : (fuel : Nat) → (first : Bool) → Cursor → Except Fault Cursor
  | 0, _, cur => .error (cur.fault .endInObject)
  | fuel + 1, first, cur =>
    let cur := cur.skipSpaces
    match cur.rest with
    | [] => .error (cur.faultAhead .endInObject)
    | '}' :: _ => .ok cur.next
    | c :: _ =>
      if first then do skipEntriesFrom fuel false (← skipValueFrom fuel (← skipKey cur))
      else if c = ',' then do skipEntriesFrom fuel false (← skipValueFrom fuel (← skipKey cur.next))
      else .error (cur.faultAhead .missingObjectComma)
end

def skipValue (cur : Cursor) : Except Fault Cursor :=
  skipValueFrom (2 * cur.rest.length + 2) cur

end Mailroom.Json
