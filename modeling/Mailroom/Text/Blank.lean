/-! White space in the sense of Unicode, trimming, and indented lines. -/
namespace Mailroom.Text

/-- The characters with the property `White_Space`. A zero-width space, a byte-order mark and the
information separators are not among them. -/
def isBlank (c : Char) : Bool :=
  let n := c.toNat
  (0x09 ≤ n && n ≤ 0x0D) || n == 0x20 || n == 0x85 || n == 0xA0 || n == 0x1680 ||
    (0x2000 ≤ n && n ≤ 0x200A) || n == 0x2028 || n == 0x2029 || n == 0x202F || n == 0x205F ||
    n == 0x3000

def stripEnd (p : Char → Bool) (cs : List Char) : List Char :=
  (cs.reverse.dropWhile p).reverse

def strip (p : Char → Bool) (cs : List Char) : List Char :=
  stripEnd p (cs.dropWhile p)

def trim (s : String) : String :=
  .ofList (strip isBlank s.toList)

def isAllBlank (s : String) : Bool :=
  s.toList.all isBlank

/-- A line end, and so many spaces for each level at the beginning of the next line. -/
def newLine (width level : Nat) : String :=
  .ofList ('\n' :: List.replicate (width * level) ' ')

@[simp] theorem toList_trim (s : String) : (trim s).toList = strip isBlank s.toList := by
  simp [trim]

end Mailroom.Text
