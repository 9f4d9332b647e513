import Mailroom.Mime.Base64
import Mailroom.Mime.Writer

/-! Words of a header in characters that a header cannot hold. -/
namespace Mailroom.Mime

def wordStart : List Char := "=?utf-8?b?".toList

def wordEnd : List Char := "?=".toList

namespace Writer

def room (w : Writer) : Nat :=
  (maxLine - (wordStart.length + wordEnd.length + w.projected)) / 4 * 3

def freshLine (w : Writer) : Writer :=
  let w := w.newLine
  if w.waiting = 0 then w.space else w

def makeRoom (c : Char) (w : Writer) : Writer :=
  if c.utf8Size ≤ w.room then w else w.freshLine

def writeEncodedWord (cs : List Char) (w : Writer) : Writer :=
  w.write (wordStart ++ Base64.encodeText cs ++ wordEnd)

def encodeFrom (word : List Char) (w : Writer) : List Char → Writer
  | [] => w.writeEncodedWord word
  | c :: r =>
    if Text.byteCount word + c.utf8Size ≤ w.room then encodeFrom (word ++ [c]) w r
    else encodeFrom [c] ((w.writeEncodedWord word).makeRoom c) r

/-- Writes a text as encoded words. A line that cannot be broken yet takes one character, however long
the line is. -/
def encode (cs : List Char) (w : Writer) : Writer :=
  match cs with
  | [] => w
  | c :: r => encodeFrom [c] (if 0 < w.waiting then w.makeRoom c else w) r

end Writer

end Mailroom.Mime
