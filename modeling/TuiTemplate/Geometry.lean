import TuiTemplate.Text.Quoted
set_option autoImplicit false

namespace TuiTemplate

/-- The axis along which an area is divided. -/
inductive Direction where
  | horizontal
  | vertical
deriving DecidableEq, Repr

inductive GeometryError where
  | negativeExtent
  | negativeSize
  | rowOutOfRange
  | unknownDirection (name : String)
deriving DecidableEq, Repr

def GeometryError.message : GeometryError → String
  | .negativeExtent => "Region extent must be non-negative"
  | .negativeSize => "Canvas size must be non-negative"
  | .rowOutOfRange => "list index out of range"
  | .unknownDirection name => Text.quote name ++ " is not a valid Direction"

namespace Direction

def name : Direction → String
  | .horizontal => "horizontal"
  | .vertical => "vertical"

def all : List Direction := [.horizontal, .vertical]

def ofName? (name : String) : Option Direction := all.find? fun d => d.name == name

end Direction

/-- A rectangle of cells: the cell of its top left corner and its extents. -/
structure Region where
  x : Int
  y : Int
  width : Nat
  height : Nat
deriving DecidableEq, Repr

namespace Region

/-- Extents below zero are refused. -/
def ofInts (x y width height : Int) : Except GeometryError Region :=
  if width < 0 ∨ height < 0 then .error .negativeExtent
  else .ok ⟨x, y, width.toNat, height.toNat⟩

def right (r : Region) : Int := r.x + r.width

def bottom (r : Region) : Int := r.y + r.height

def area (r : Region) : Nat := r.width * r.height

def isEmpty (r : Region) : Bool := r.width == 0 || r.height == 0

/-- Whether `r` reaches at least as far as `other` in all four directions. -/
def contains (r other : Region) : Bool :=
  r.x ≤ other.x && r.y ≤ other.y && other.right ≤ r.right && other.bottom ≤ r.bottom

/-- Whether the two share a cell. -/
def overlaps (r other : Region) : Bool :=
  !r.isEmpty && !other.isEmpty && r.x < other.right && other.x < r.right &&
    r.y < other.bottom && other.y < r.bottom

end Region

/-- `total` in `count` parts. All are the quotient rounded down, and the last takes what is
left over as well. -/
def equalShares (total count : Int) : List Int :=
  if count ≤ 0 then []
  else
    List.replicate (count.toNat - 1) (total.fdiv count) ++
      [total.fdiv count + total.fmod count]

namespace Region

/-- Regions side by side from `x` on, of the height of `r`. -/
def columnsFrom (r : Region) (x : Int) : List Nat → List Region
  | [] => []
  | width :: rest => ⟨x, r.y, width, r.height⟩ :: columnsFrom r (x + width) rest

/-- Regions one below the other from `y` on, of the width of `r`. -/
def rowsFrom (r : Region) (y : Int) : List Nat → List Region
  | [] => []
  | height :: rest => ⟨r.x, y, r.width, height⟩ :: rowsFrom r (y + height) rest

/-- The equal shares of a region along one axis. The other axis is kept whole. -/
def split (r : Region) (d : Direction) (count : Int) : List Region :=
  match d with
  | .horizontal => r.columnsFrom r.x ((equalShares r.width count).map Int.toNat)
  | .vertical => r.rowsFrom r.y ((equalShares r.height count).map Int.toNat)

end Region

end TuiTemplate
