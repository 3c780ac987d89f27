import TuiTemplate.Text.CellWidth
set_option autoImplicit false

namespace TuiTemplate.Text

/-- Cells from one tab stop to the next. -/
def tabSize : Nat := 8

def spaces (count : Nat) : String := String.ofList (List.replicate count ' ')

/-- What a tab after a text makes of it: a space, and as many more as lead to a tab stop. -/
def toTabStop (part : String) : String :=
  let spaced := part ++ " "
  spaced ++ spaces ((tabSize - textWidth spaced % tabSize) % tabSize)

/-- A line with its tabs expanded. It starts at a tab stop, and so does what follows a tab. -/
def expandLineTabs (line : String) : String :=
  let parts := line.splitOn "\t"
  String.join (parts.dropLast.map toTabStop) ++ parts.getLast?.getD ""

/-- A text with the tabs of each of its lines expanded. Only a line feed starts a line. -/
def expandTabs (s : String) : String := "\n".intercalate ((s.splitOn "\n").map expandLineTabs)

end TuiTemplate.Text
