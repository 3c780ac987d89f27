import TuiTemplate.Failure
import TuiTemplate.Geometry
import TuiTemplate.Text.Blank
import TuiTemplate.Text.Control
import TuiTemplate.Text.Lines
set_option autoImplicit false

namespace TuiTemplate

open Text

/-- A text drawn into a region. -/
structure Draw where
  region : Region
  text : String
deriving DecidableEq, Repr

/-- A grid of cells that texts are drawn on, with the draws made so far. A cell holds one drawn
character or the fill. -/
structure Canvas where
  width : Nat
  height : Nat
  fill : String
  grid : List (List String)
  draws : List Draw
deriving DecidableEq, Repr

/-- `row` with `cells` put in from `start` on. -/
def overlay (start : Nat) (cells row : List String) : List String :=
  row.take start ++ cells ++ row.drop (start + cells.length)

/-- Draws lines on rows, one on each from the top, from column `start` on and at most `width`
characters long. Lines without a row are dropped. -/
def paintRows (start width : Nat) : List (List Char) → List (List String) → List (List String)
  | line :: lines, row :: rows =>
    overlay start ((line.take width).map String.singleton) row :: paintRows start width lines rows
  | [], rows => rows
  | _, [] => []

/-- Draws a text into a region of the grid. Each line is clipped at the width of the region, and
lines below its bottom are dropped. -/
def paint (grid : List (List String)) (d : Draw) : List (List String) :=
  if d.region.isEmpty then grid
  else
    let top := d.region.y.toNat
    grid.take top ++
      paintRows d.region.x.toNat d.region.width ((linesOf d.text.toList).take d.region.height)
        (grid.drop top)

/-- The place that an index means in a list of some length: below zero it counts from the end. -/
def placeOf (length : Nat) (index : Int) : Int := if index < 0 then index + length else index

/-- The part of a list between two indices, which are clipped to the list. -/
def between {α : Type} (items : List α) (first last : Int) : List α :=
  let start := (placeOf items.length first).toNat
  (items.take (placeOf items.length last).toNat).drop start

namespace Canvas

/-- A row is not even made where there is none. -/
def blankGrid (width height : Nat) (fill : String) : List (List String) :=
  if height = 0 then [] else List.replicate height (List.replicate width fill)

theorem blankGrid_eq (width height : Nat) (fill : String) :
    blankGrid width height fill = List.replicate height (List.replicate width fill) := by
  unfold blankGrid
  split
  · next h => rw [h, List.replicate_zero]
  · rfl

def blank (width height : Nat) (fill : String := " ") : Canvas :=
  ⟨width, height, fill, blankGrid width height fill, []⟩

/-- Sizes below zero are refused. -/
def ofInts (width height : Int) (fill : String := " ") : Except GeometryError Canvas :=
  if width < 0 ∨ height < 0 then .error .negativeSize
  else .ok (blank width.toNat height.toNat fill)

def area (c : Canvas) : Region := ⟨0, 0, c.width, c.height⟩

def outside (c : Canvas) (r : Region) : Failure :=
  { kind := .render "Region lies outside the canvas"
    context :=
      [("region", .tuple [.number r.x, .number r.y, .number r.width, .number r.height]),
       ("canvas", .tuple [.number c.width, .number c.height])] }

/-- A region that is not within the canvas is refused, and nothing changes. -/
def draw (c : Canvas) (d : Draw) : Except Failure Canvas :=
  if c.area.contains d.region then
    .ok { c with grid := paint c.grid d, draws := c.draws ++ [d] }
  else .error (c.outside d.region)

def clear (c : Canvas) : Canvas := blank c.width c.height c.fill

def lines (c : Canvas) : List String := c.grid.map String.join

/-- The row that an index in the range of the grid means. -/
def row (c : Canvas) (y : Int) : List String := c.grid.getD (placeOf c.grid.length y).toNat []

/-- The cells of a region, a text for each of its rows. A region with a row outside the grid is
refused, and columns outside it are left out. -/
def textAt (c : Canvas) (r : Region) : Except GeometryError (List String) :=
  if r.height = 0 ∨ (-(c.grid.length : Int) ≤ r.y ∧ r.bottom ≤ c.grid.length) then
    .ok ((List.range r.height).map fun (i : Nat) =>
      String.join (between (c.row (r.y + i)) r.x r.right))
  else .error .rowOutOfRange

/-- A row without the characters of the fill at its end. -/
def trimmedRow (fill row : String) : String :=
  String.ofList (dropTrailing fill.toList.contains row.toList)

/-- The canvas as it is shown: each row without the fill at its end, and nothing that moves the
cursor. -/
def shownText (c : Canvas) : String :=
  removeControls ("\n".intercalate (c.lines.map (trimmedRow c.fill)))

end Canvas

end TuiTemplate
