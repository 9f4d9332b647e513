import Mailroom.Domain.Direction
import Mailroom.Domain.Joining
import Mailroom.Domain.Mapping
import Mailroom.Domain.Punycode
import Mailroom.Text.Mark
import Mailroom.Text.Utf8

/-! Domain names of any characters, and the names in ASCII under which they are looked up. -/
namespace Mailroom.Domain

open Text

structure Label where
  characters : List Char
  ascii : List Char

def asciiMark : List Char := ['x', 'n', '-', '-']

/-- Reads a label after mapping. A label with the mark in front must stand for characters that are kept as
they are, are not all ASCII and are in normal form. -/
def Label.ofMapped? (label : List Char) : Option Label :=
  match dropPrefix? asciiMark label with
  | some coded => do
    let characters ← Punycode.decode? coded
    if !isAscii coded || isAscii characters || !characters.all isKept ||
        NormalForm.normalize characters != characters then none
    else some ⟨characters, label⟩
  | none =>
    if isAscii label then some ⟨label, label⟩
    else some ⟨label, asciiMark ++ Punycode.encode label⟩

def Label.isWellFormed (label : Label) : Bool :=
  !(label.characters.head?.any isMark) && joinersFit label.characters

def labels? (name : List Char) : Option (List Label) := do
  let mapped ← name.mapM replacement?
  let labels ← (splitAt (· == '.') (NormalForm.normalize mapped.flatten)).mapM Label.ofMapped?
  if !labels.all Label.isWellFormed then none
  else if labels.any (·.characters.any runsRightToLeft) &&
      !labels.all (keepsDirection ·.characters) then none
  else some labels

def toAscii? (name : List Char) : Option (List Char) := do
  let labels ← labels? name
  return ['.'].intercalate (labels.map Label.ascii)

end Mailroom.Domain
