import TuiTemplate.Files.TextFile
import TuiTemplate.Proofs.Text.Utf8

set_option autoImplicit false

namespace TuiTemplate

open Text

namespace TextFile

/-- What has arrived of a text by the end of one of its pieces. -/
def Arrives (file : TextFile) (start : List Char) : Prop :=
  ∃ front back, file.pieces = front ++ back ∧ front ≠ [] ∧ start = front.flatten

end TextFile

end TuiTemplate
