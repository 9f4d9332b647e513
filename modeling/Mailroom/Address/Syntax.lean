import Mailroom.Domain.IpAddress
import Mailroom.Domain.Name
import Mailroom.Text.Letter
import Mailroom.Text.Utf8

/-! The syntax of the two parts of an address. -/
namespace Mailroom.Address

open Text

/-- The low sixteen bits of the code point spell one character of two bytes, a lead byte C2 to D7 and a
continuation byte. Such a character passes wherever plain ones do. -/
def spellsTwoBytes (c : Char) : Bool :=
  0xC280 ≤ c.toNat && c.toNat ≤ 0xD7BF && 0x80 ≤ c.toNat % 256 && c.toNat % 256 ≤ 0xBF

def isAtomChar (c : Char) : Bool :=
  isAlphanumeric c || "!#$%&'*+-/=?^_`\x7b|\x7d~".toList.contains c || spellsTwoBytes c

def isQuotedChar (c : Char) : Bool :=
  c == '!' || ('#' ≤ c && c ≤ '[') || (']' ≤ c && c ≤ '~') || spellsTwoBytes c

def isVisible (c : Char) : Bool := '!' ≤ c && c ≤ '~'

/-- The text between the quotation marks of a local part: plain characters, spaces, tabs, and visible
characters behind a backslash. -/
def isQuotedContent : List Char → Bool
  | [] => true
  | '\\' :: c :: r => isVisible c && isQuotedContent r
  | c :: r => (c == ' ' || c == '\t' || isQuotedChar c) && isQuotedContent r

def isDotAtom (cs : List Char) : Bool :=
  (splitAt (· == '.') cs).all fun atom => !atom.isEmpty && atom.all isAtomChar

def betweenQuotes? (cs : List Char) : Option (List Char) :=
  if cs.head? == some '"' && cs.getLast? == some '"' then some (cs.drop 1).dropLast else none

/-- The part before the sign is a quoted text that is not empty, or a sequence of atoms. -/
def isLocalPart (cs : List Char) : Bool :=
  1 ≤ byteCount cs && byteCount cs ≤ 64 &&
    match betweenQuotes? cs with
    | some inner => !inner.isEmpty && isQuotedContent inner
    | none => isDotAtom cs

def isLiteralChar (c : Char) : Bool :=
  ('!' ≤ c && c ≤ 'Z') || ('^' ≤ c && c ≤ '~') || spellsTwoBytes c

def isLabel (cs : List Char) : Bool :=
  1 ≤ byteCount cs && byteCount cs ≤ 63 && cs.all isAtomChar &&
    cs.head?.any isAlphanumeric && cs.getLast?.any isAlphanumeric

def betweenBrackets? (cs : List Char) : Option (List Char) := do
  dropSuffix? [']'] (← dropPrefix? ['['] cs)

/-- A domain as it is written: a text in brackets, or labels with points between them. -/
def isWrittenDomain (cs : List Char) : Bool :=
  byteCount cs ≤ 254 &&
    match betweenBrackets? cs with
    | some inner => inner.all isLiteralChar
    | none => (splitAt (· == '.') cs).all isLabel

def isPlainDomain (cs : List Char) : Bool :=
  isWrittenDomain cs || Domain.isIpAddress ((betweenBrackets? cs).getD cs)

/-- The part after the sign is such a domain, or a name that becomes one in ASCII. -/
def isDomain (cs : List Char) : Bool :=
  isPlainDomain cs || (Domain.toAscii? cs).any isPlainDomain

end Mailroom.Address
