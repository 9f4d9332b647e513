import Mailroom.Mime.Base64
import Mailroom.Mime.QuotedPrintable

/-! How the text of a message is written for transfer. -/
namespace Mailroom.Mime

inductive TransferEncoding where
  | sevenBit
  | quotedPrintable
  | base64
  deriving DecidableEq, Repr

namespace TransferEncoding

def name : TransferEncoding → String
  | sevenBit => "7bit"
  | quotedPrintable => "quoted-printable"
  | base64 => "base64"

def longLine : Nat := 1000

/-- A line is too long; `count` is the number of bytes since the last line end, which counts. -/
def hasLongLine (count : Nat) : List UInt8 → Bool
  | [] => longLine ≤ count
  | b :: r =>
    if b = 10 then longLine ≤ count || hasLongLine 1 r
    else hasLongLine (count + 1) r

def needsEscape (b : UInt8) : Bool := !(b == 9 || (32 ≤ b && b ≤ 126))

/-- ASCII in lines that are not too long is written as it is; other text is escaped where needed if that
is at most a third of its bytes. -/
def choose (text : List UInt8) : TransferEncoding :=
  if text.all (· < 128) && !hasLongLine 0 text then sevenBit
  else if text.countP needsEscape ≤ text.length / 3 then quotedPrintable
  else base64

/-- Ends every line with a carriage return and a line feed; `afterReturn` says that a carriage return
comes before. -/
def endLines (afterReturn : Bool) : List Char → List Char
  | [] => []
  | c :: r =>
    if c = '\n' && !afterReturn then '\r' :: '\n' :: endLines false r
    else c :: endLines (c == '\r') r

def cutLines : (fuel : Nat) → List Char → List Char
  | 0, cs => cs
  | fuel + 1, cs =>
    if cs.length ≤ maxLine then cs
    else cs.take maxLine ++ ['\r', '\n'] ++ cutLines fuel (cs.drop maxLine)

def apply (encoding : TransferEncoding) (text : List Char) : List Char :=
  let text := endLines false text
  match encoding with
  | sevenBit => text
  | quotedPrintable => QuotedPrintable.encode (Text.utf8 text)
  | base64 =>
    let cs := Base64.encodeText text
    cutLines cs.length cs

end TransferEncoding

end Mailroom.Mime
