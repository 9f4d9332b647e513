import Mailroom.Address.Basic

/-! Reading the mailboxes of a header back from its value. -/
namespace Mailroom.Mime.MailboxList

/-- A reader of a part in front of a text, with what it takes and the rest. -/
abbrev Taker := List Char → Option (List Char × List Char)

def isAtomText (c : Char) : Bool :=
  c.isAlphanum || "!#$%&'*+-/=?^_`\x7b|\x7d~".toList.contains c || 0x80 ≤ c.toNat

def isEscapable (c : Char) : Bool :=
  let n := c.toNat
  0 < n && n ≤ 127 && n != 10 && n != 13

def isQuotable (c : Char) : Bool :=
  let n := c.toNat
  (0 < n && n != 9 && n != 10 && n != 13 && n != 32 && n != 34 && n != 92)

def isSpacing (c : Char) : Bool := c == ' ' || c == '\t'

def takeSpacing (cs : List Char) : List Char × List Char :=
  ((cs.takeWhile isSpacing).take 1, cs.dropWhile isSpacing)

def either (a b : Taker) : Taker := fun cs => (a cs).or (b cs)

def both (a b : Taker) : Taker := fun cs => do
  let (x, cs) ← a cs
  let (y, cs) ← b cs
  return (x ++ y, cs)

def char (c : Char) : Taker
  | d :: r => if c = d then some ([c], r) else none
  | [] => none

/-- Takes a part as often as it is there; `fuel` bounds the number of times. -/
def manyFrom (a : Taker) : (fuel : Nat) → List Char → List Char × List Char
  | 0, cs => ([], cs)
  | fuel + 1, cs =>
    match a cs with
    | none => ([], cs)
    | some (x, rest) =>
      let (y, rest) := manyFrom a fuel rest
      (x ++ y, rest)

def many (a : Taker) : Taker := fun cs => some (manyFrom a cs.length cs)

def atomText : Taker := fun cs =>
  match cs.takeWhile isAtomText with
  | [] => none
  | atom => some (atom, cs.dropWhile isAtomText)

def spacing : Taker := fun cs => some (takeSpacing cs)

def atom : Taker := both spacing atomText

def dotAtom : Taker :=
  both spacing (both atomText (both (both (char '.') atomText) (many (both (char '.') atomText))))

def quotedContent : Taker
  | '\\' :: c :: r => if isEscapable c then some ([c], r) else none
  | c :: r => if isQuotable c then some ([c], r) else none
  | [] => none

def quotedString : Taker
  | '"' :: r => do
    let (content, r) ← many (both spacing quotedContent) r
    match r.dropWhile Text.isBlank with
    | '"' :: r => some (content, r)
    | _ => none
  | _ => none

def word : Taker := either quotedString atom

def localPart : Taker :=
  either dotAtom (either quotedString (both word (many (both (char '.') word))))

def domain : Taker := either dotAtom (both atom (many (both (char '.') atom)))

def phrase : Taker := both word (many (either word (char '.')))

abbrev Parts := String × String

def address (cs : List Char) : Option (Parts × List Char) := do
  let (name, cs) ← localPart cs
  let (_, cs) ← char '@' cs
  let (domain, cs) ← domain cs
  return ((.ofList name, .ofList domain), cs)

def angleAddress (cs : List Char) : Option (Parts × List Char) := do
  let (_, cs) ← char '<' (cs.dropWhile Text.isBlank)
  let (parts, cs) ← address cs
  let (_, cs) ← char '>' cs
  return (parts, cs.dropWhile Text.isBlank)

/-- Reads a mailbox: an address between angle brackets with or without a name, or a bare address. -/
def mailbox (cs : List Char) : Option (Parts × List Char) :=
  let afterName := match phrase cs with
    | some (_, rest) => rest
    | none => cs
  (angleAddress afterName).or (address cs)

def mailboxesFrom : (fuel : Nat) → List Char → Option (List Parts)
  | 0, _ => none
  | fuel + 1, cs => do
    let (first, rest) ← mailbox cs
    match rest.dropWhile Text.isBlank with
    | ',' :: r => return first :: (← mailboxesFrom fuel (r.dropWhile Text.isBlank))
    | _ => if rest.isEmpty then some [first] else none

def read? (value : List Char) : Option (List Address) := do
  let parts ← mailboxesFrom (value.length + 1) value
  parts.mapM fun (name, domain) =>
    if Address.isLocalPart name.toList && Address.isDomain domain.toList then
      some { localPart := name, domain }
    else none

end Mailroom.Mime.MailboxList
