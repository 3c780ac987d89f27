import TuiTemplate.Text.Markup
import TuiTemplate.Text.Lines
import TuiTemplate.Text.Wrap
import TuiTemplate.Widget.Registry
set_option autoImplicit false

namespace TuiTemplate

open Text

/-- The characters that a line of a table begins with, has between its cells, and ends with. -/
structure TableEdge where
  left : String
  between : String
  right : String

namespace TableEdge

def join (e : TableEdge) (cells : List String) : String :=
  e.left ++ e.between.intercalate cells ++ e.right ++ "\n"

/-- A line that separates rows. -/
def rule (e : TableEdge) (stroke : Char) (widths : List Nat) : String :=
  e.join (widths.map fun width => String.ofList (List.replicate (width + 2) stroke))

end TableEdge

/-- A text widened by spaces to a number of cells. -/
def padCells (width : Nat) (text : String) : String :=
  text ++ spaces (width - textWidth text)

/-- A text in the middle of a number of cells. An odd cell goes to the right. -/
def centerCells (width : Nat) (text : String) : String :=
  let free := width - textWidth text
  spaces (free / 2) ++ text ++ spaces (free - free / 2)

/-- A column of a table: its width, and whether it breaks lines that are too long instead of cutting
them off. -/
structure TableColumn where
  width : Nat
  wraps : Bool

/-- The texts of the cells of a row. -/
abbrev TableRow := List String

/-- The lines of a cell. Only a line feed ends a line. -/
def TableColumn.lines (c : TableColumn) (cell : String) : List String :=
  (cell.splitOn "\n").flatMap fun line =>
    if c.wraps then wrapLine c.width line else [fitLine c.width (expandTabs line).toList]

/-- A row of a table. Cells with fewer lines than others end in blank lines. -/
def TableRow.print (edge : TableEdge) (columns : List TableColumn) (row : TableRow) : String :=
  let cells := (row.zip columns).map fun (cell, column) => (column.lines cell, column.width)
  let height := (cells.map fun cell => cell.1.length).foldl max 0
  String.join ((List.range height).map fun index => edge.join (cells.map fun (lines, width) =>
    " " ++ padCells width (lines[index]?.getD "") ++ " "))

/-- A column is as wide as the widest line of its cells. A tab takes no room here. -/
def columnWidth (rows : List TableRow) (column : Nat) : Nat :=
  (rows.flatMap fun row => (splitLines (row[column]?.getD "")).map textWidth).foldl max 0

/-- A table with a title over it. The header names the columns that wrap. -/
def printTable (title : String) (header : List (String × Bool)) (rows : List TableRow) : String :=
  let names := header.map Prod.fst
  let columns := header.zipIdx.map fun ((_, wraps), index) =>
    (⟨columnWidth (names :: rows) index, wraps⟩ : TableColumn)
  let widths := columns.map TableColumn.width
  let total := widths.foldl (fun total width => total + width + 3) 1
  centerCells total title ++ "\n" ++
    TableEdge.rule ⟨"┏", "┳", "┓"⟩ '━' widths ++
    TableRow.print ⟨"┃", "┃", "┃"⟩ columns names ++
    TableEdge.rule ⟨"┡", "╇", "┩"⟩ '━' widths ++
    String.join (rows.map (TableRow.print ⟨"│", "│", "│"⟩ columns)) ++
    TableEdge.rule ⟨"└", "┴", "┘"⟩ '─' widths

namespace Registration

/-- The row of a kind. Its name may hold markup, and its description shows as it is. -/
def tableRow (r : Registration) : Except Markup.Error TableRow := do
  let kind ← Markup.shown r.kind
  let description ← Markup.shown (Markup.escape r.description)
  return [kind, if r.container then "yes" else "no", description]

end Registration

/-- The table of all registered kinds as a terminal shows it. -/
def Registry.printedKinds (r : Registry) : Except Markup.Error String :=
  (r.list.mapM Registration.tableRow).map fun rows =>
    printTable "Widget Kinds" [("Kind", false), ("Children", true), ("Description", true)] rows

end TuiTemplate
