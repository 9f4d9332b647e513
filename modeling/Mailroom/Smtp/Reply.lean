import Mailroom.Text.Blank
import Mailroom.Text.Split

/-! Replies of a server. -/
namespace Mailroom.Smtp

structure Reply where
  code : Nat
  lines : List (List Char)
  deriving DecidableEq, Repr

namespace Reply

def isPositive (r : Reply) : Bool := 200 ≤ r.code && r.code < 400

def text (r : Reply) : String := .ofList ([' '].intercalate r.lines)

def lineWords (line : List Char) : List (List Char) := Text.words Text.isBlank line

def firstWord? (r : Reply) : Option (List Char) := do
  (lineWords (← r.lines.head?)).head?

end Reply

inductive ReplyFault where
  /-- The text from the first character on that does not fit. -/
  | mismatch (rest : List Char)
  /-- The lines have different codes. -/
  | mixedCodes
  /-- The server ends within a reply. -/
  | incomplete
  deriving DecidableEq, Repr

def ReplyFault.message : ReplyFault → String
  | mismatch rest => "error Tag at: " ++ .ofList rest
  | mixedCodes => "error Not at: "
  | incomplete => "incomplete response"

inductive Scan (α : Type) where
  | found (value : α) (rest : List Char)
  /-- More text is needed. -/
  | more
  | fault (fault : ReplyFault)

def scanDigit (first last : Char) : List Char → Scan Nat
  | [] => .more
  | c :: r =>
    if first ≤ c ∧ c ≤ last then .found (c.toNat - '0'.toNat) r else .fault (.mismatch (c :: r))

/-- A code: its three digits tell how the command fared, what it is about, and the detail. -/
def scanCode (cs : List Char) : Scan Nat :=
  match scanDigit '2' '5' cs with
  | .found a cs =>
    match scanDigit '0' '5' cs with
    | .found b cs =>
      match scanDigit '0' '9' cs with
      | .found c cs => .found (100 * a + 10 * b + c) cs
      | other => other
    | other => other
  | other => other

/-- Cuts in front of the first line end, which belongs to neither part. -/
def cutLine? : List Char → Option (List Char × List Char)
  | '\r' :: '\n' :: r => some ([], r)
  | c :: r => (cutLine? r).map fun (a, b) => (c :: a, b)
  | [] => none

/-- The lines of a reply after those in `done`, last one first. A hyphen after the code says that
another line follows, a space that none does. Each line takes characters, so the length of the text is
fuel enough. -/
def scanLines (done : List (Nat × List Char)) : (fuel : Nat) → List Char → Scan Reply
  | 0, _ => .more
  | fuel + 1, cs =>
    match scanCode cs with
    | .more => .more
    | .fault f => .fault f
    | .found _ [] => .more
    | .found code (c :: r) =>
      if c = '-' then
        match cutLine? r with
        | none => .more
        | some (line, rest) => scanLines ((code, line) :: done) fuel rest
      else if c = ' ' then
        match cutLine? r with
        | none => .more
        | some (line, rest) =>
          if done.all fun (k, _) => k == code then
            .found ⟨code, (line :: done.map (·.2)).reverse⟩ rest
          else .fault .mixedCodes
      else .fault (.mismatch (c :: r))

def scanReply (cs : List Char) : Scan Reply := scanLines [] (cs.length + 1) cs

def takeLine : List Char → List Char × List Char
  | [] => ([], [])
  | '\n' :: r => (['\n'], r)
  | c :: r =>
    let (a, b) := takeLine r
    (c :: a, b)

/-- Reads lines until they make a reply or can make none; `read` is what has been read before. The
number of characters is fuel enough. -/
def readReplyFrom : (fuel : Nat) → (read unread : List Char) → Except ReplyFault Reply × List Char
  | 0, _, unread => (.error .incomplete, unread)
  | fuel + 1, read, unread =>
    match takeLine unread with
    | ([], _) => (.error .incomplete, [])
    | (line, rest) =>
      match scanReply (read ++ line) with
      | .found r _ => (.ok r, rest)
      | .fault f => (.error f, rest)
      | .more => readReplyFrom fuel (read ++ line) rest

def readReply (unread : List Char) : Except ReplyFault Reply × List Char :=
  readReplyFrom (unread.length + 1) [] unread

end Mailroom.Smtp
