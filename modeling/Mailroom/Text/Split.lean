/-! Cutting text at single characters. -/
namespace Mailroom.Text

/-- Cuts at the first character that satisfies `p`, which belongs to neither part. -/
def cutFirst? (p : Char → Bool) : List Char → Option (List Char × List Char)
  | [] => none
  | c :: r => if p c then some ([], r) else (cutFirst? p r).map fun (a, b) => (c :: a, b)

def cutLast? (p : Char → Bool) (cs : List Char) : Option (List Char × List Char) :=
  (cutFirst? p cs.reverse).map fun (b, a) => (a.reverse, b.reverse)

/-- The parts between the characters that satisfy `p`; there is one part more than such
characters. -/
def splitAt (p : Char → Bool) : List Char → List (List Char)
  | [] => [[]]
  | c :: r =>
    if p c then [] :: splitAt p r
    else match splitAt p r with
      | [] => [[c]]
      | w :: ws => (c :: w) :: ws

def words (p : Char → Bool) (cs : List Char) : List (List Char) :=
  (splitAt p cs).filter fun w => !w.isEmpty

def dropPrefix? : List Char → List Char → Option (List Char)
  | [], cs => some cs
  | _ :: _, [] => none
  | p :: ps, c :: cs => if p = c then dropPrefix? ps cs else none

def dropSuffix? (post cs : List Char) : Option (List Char) :=
  (dropPrefix? post.reverse cs.reverse).map List.reverse

def occurs (part : List Char) : List Char → Bool
  | [] => part.isEmpty
  | c :: r => part.isPrefixOf (c :: r) || occurs part r

end Mailroom.Text
