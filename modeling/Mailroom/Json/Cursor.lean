import Mailroom.Json.Basic

/-! A place in JSON text, and the faults that reading can find. -/
namespace Mailroom.Json

/-- A place in a text: the line, from one on, and the bytes of that line that lie before. -/
structure Position where
  line : Nat := 1
  column : Nat := 0
  deriving DecidableEq, Repr

inductive Cause where
  | endInValue
  | endInString
  | endInList
  | endInObject
  | missingColon
  | missingListComma
  | missingObjectComma
  | unknownWord
  | missingValue
  | badEscape
  | badNumber
  | numberOutOfRange
  | controlCharacter
  | keyNotString
  | loneSurrogate
  | unfinishedPair
  | trailingComma
  | trailingCharacters
  | tooDeep
  /-- The text is well formed, but not of the shape asked for. -/
  | shape (message : String)
  deriving DecidableEq, Repr

def Cause.message : Cause → String
  | endInValue => "EOF while parsing a value"
  | endInString => "EOF while parsing a string"
  | endInList => "EOF while parsing a list"
  | endInObject => "EOF while parsing an object"
  | missingColon => "expected `:`"
  | missingListComma => "expected `,` or `]`"
  | missingObjectComma => "expected `,` or `\x7d`"
  | unknownWord => "expected ident"
  | missingValue => "expected value"
  | badEscape => "invalid escape"
  | badNumber => "invalid number"
  | numberOutOfRange => "number out of range"
  | controlCharacter => "control character (\\u0000-\\u001F) found while parsing a string"
  | keyNotString => "key must be a string"
  | loneSurrogate => "lone leading surrogate in hex escape"
  | unfinishedPair => "unexpected end of hex escape"
  | trailingComma => "trailing comma"
  | trailingCharacters => "trailing characters"
  | tooDeep => "recursion limit exceeded"
  | shape message => message

/-- A cause, with the place where it was found if the value was read from text. -/
structure Fault where
  cause : Cause
  position : Option Position := none
  deriving DecidableEq, Repr

def Fault.message (f : Fault) : String :=
  match f.position with
  | none => f.cause.message
  | some p => f.cause.message ++ " at line " ++ toString p.line ++ " column " ++ toString p.column

/-- A fault of shape that has no place yet is given one. -/
def Fault.placedAt (f : Fault) (p : Position) : Fault :=
  match f.position with
  | none => { f with position := some p }
  | some _ => f

def Position.after (p : Position) (c : Char) : Position :=
  if c = '\n' then ⟨p.line + 1, 0⟩ else ⟨p.line, p.column + c.utf8Size⟩

/-- The place after `count` bytes of a text, which may be inside a character. -/
def Position.afterBytes (p : Position) : (count : Nat) → List Char → Position
  | 0, _ => p
  | _, [] => p
  | count + 1, c :: r =>
    if c.utf8Size ≤ count + 1 then (p.after c).afterBytes (count + 1 - c.utf8Size) r
    else ⟨p.line, p.column + count + 1⟩
termination_by _ cs => cs.length

structure Cursor where
  rest : List Char
  position : Position := {}

namespace Cursor

def start (text : String) : Cursor := ⟨text.toList, {}⟩

def next (cur : Cursor) : Cursor :=
  match cur.rest with
  | [] => cur
  | c :: r => ⟨r, cur.position.after c⟩

def ahead (cur : Cursor) : Position :=
  match cur.rest with
  | [] => cur.position
  | '\n' :: _ => ⟨cur.position.line + 1, 0⟩
  | _ => ⟨cur.position.line, cur.position.column + 1⟩

def fault (cur : Cursor) (cause : Cause) : Fault := ⟨cause, some cur.position⟩

def faultAhead (cur : Cursor) (cause : Cause) : Fault := ⟨cause, some cur.ahead⟩

def isSpace (c : Char) : Bool := c == ' ' || c == '\n' || c == '\t' || c == '\r'

def skipWhile (p : Char → Bool) : List Char → Position → Cursor
  | [], at_ => ⟨[], at_⟩
  | c :: r, at_ => if p c then skipWhile p r (at_.after c) else ⟨c :: r, at_⟩

def skipSpaces (cur : Cursor) : Cursor := skipWhile isSpace cur.rest cur.position

def digits (cur : Cursor) : List Char × Cursor :=
  (cur.rest.takeWhile Char.isDigit, skipWhile Char.isDigit cur.rest cur.position)

def atDigit (cur : Cursor) : Bool :=
  match cur.rest with
  | c :: _ => c.isDigit
  | [] => false

def atExponent (cur : Cursor) : Bool :=
  match cur.rest with
  | c :: _ => c == 'e' || c == 'E'
  | [] => false

end Cursor

end Mailroom.Json
