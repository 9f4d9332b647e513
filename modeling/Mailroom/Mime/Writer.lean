import Mailroom.Text.Utf8

/-! Writing the value of a header within lines of limited length. -/
namespace Mailroom.Mime

def maxLine : Nat := 76

/-- The value written so far. Spaces wait until something follows them, so that a line can be broken
in front of them. -/
structure Writer where
  text : List Char := []
  /-- The bytes on the line. -/
  column : Nat
  /-- The spaces that wait. -/
  waiting : Nat := 0
  /-- Something has been written since the line began. -/
  breakable : Bool := false

namespace Writer

def afterName (name : String) : Writer := { column := name.utf8ByteSize + 2 }

def projected (w : Writer) : Nat := w.column + w.waiting

def space (w : Writer) : Writer := { w with waiting := w.waiting + 1 }

def newLine (w : Writer) : Writer :=
  { w with text := w.text ++ ['\r', '\n'], column := 0, breakable := false }

def flush (w : Writer) : Writer :=
  { w with text := w.text ++ List.replicate w.waiting ' ', column := w.projected, waiting := 0 }

def write (cs : List Char) (w : Writer) : Writer :=
  let w := w.flush
  { w with
    text := w.text ++ cs
    column := w.column + Text.byteCount cs
    breakable := true }

def writeWord (cs : List Char) (w : Writer) : Writer :=
  if cs.isEmpty then w
  else if w.breakable && 0 < w.waiting && maxLine < w.projected + Text.byteCount cs then
    w.newLine.write cs
  else w.write cs

/-- Writes words and the spaces between them; `word` is the word under way, last character first. -/
def foldFrom (word : List Char) (w : Writer) : List Char → Writer
  | [] => w.writeWord word.reverse
  | ' ' :: r => foldFrom [] (w.writeWord word.reverse).space r
  | c :: r => foldFrom (c :: word) w r

def fold (cs : List Char) (w : Writer) : Writer := foldFrom [] w cs

def finish (w : Writer) : List Char := w.flush.text

end Writer

end Mailroom.Mime
