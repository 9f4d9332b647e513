import Mailroom.Mime.EncodedWord

/-! Free text in a header. -/
namespace Mailroom.Mime

/-- A character that a header can hold: any in ASCII but NUL and those that end a line. -/
def isHeaderChar (c : Char) : Bool :=
  let n := c.toNat
  0 < n && n < 128 && n != 10 && n != 13

def spacedWords : List Char → List (List Char)
  | [] => []
  | c :: r =>
    if c = ' ' then [c] :: spacedWords r
    else match spacedWords r with
      | [] => [[c]]
      | w :: ws => (c :: w) :: ws

def Writer.encodeGroup (group : List Char) (w : Writer) : Writer :=
  let inner := (group.reverse.dropWhile (· == ' ')).reverse
  let w := w.encode inner
  { w with waiting := w.waiting + (group.length - inner.length) }

/-- Writes words; `group` are the words before them that wait to be encoded together. -/
def Writer.writeWords (group : List Char) (w : Writer) : List (List Char) → Writer
  | [] => w.encodeGroup group
  | word :: r =>
    if word.all isHeaderChar then writeWords [] ((w.encodeGroup group).fold word) r
    else writeWords (group ++ word) w r

def freeText (name text : String) : List Char :=
  ((Writer.afterName name).writeWords [] (spacedWords text.toList)).finish

end Mailroom.Mime
