import Mailroom.Text.Blank

/-! Keywords: trimmed, and compared without regard to the case of ASCII letters. -/
namespace Mailroom.Text

def lowerAscii (s : String) : String :=
  .ofList (s.toList.map Char.toLower)

/-- The form in which a keyword is compared. -/
def keyword (s : String) : String :=
  lowerAscii (trim s)

@[simp] theorem toList_lowerAscii (s : String) :
    (lowerAscii s).toList = s.toList.map Char.toLower := by
  simp [lowerAscii]

end Mailroom.Text
