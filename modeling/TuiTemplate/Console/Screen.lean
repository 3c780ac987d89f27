import TuiTemplate.Render.Engine
import TuiTemplate.Settings
import TuiTemplate.Text.Tabs
set_option autoImplicit false

namespace TuiTemplate

open Text

/-- The size of a terminal in cells. -/
structure ScreenSize where
  columns : Nat
  rows : Nat
deriving DecidableEq, Repr

namespace ScreenSize

/-- An extent that the environment states, where it is a numeral. -/
def stated (env : Environment) (name : String) (default : Nat) : Except NumeralError Nat :=
  match env.get? name with
  | none => .ok default
  | some value =>
    if value.isEmpty || !value.toList.all isDigit then .ok default else parseNumeral value

/-- The size of a terminal that tells nothing of itself: what the environment states, else the
usual extents. -/
def ofEnvironment (env : Environment) : Except NumeralError ScreenSize := do
  let columns ← stated env "COLUMNS" 80
  let rows ← stated env "LINES" 25
  return ⟨columns, rows⟩

end ScreenSize

/-- What a terminal gets to see of a text whose lines are not folded: tabs become spaces, and the
last line is ended. A terminal without columns sees nothing. -/
def printed (columns : Nat) (text : String) : String :=
  if columns = 0 then "" else expandTabs text ++ "\n"

/-- A canvas as large as a terminal. -/
def screenCanvas (size : ScreenSize) : Canvas := .blank size.columns size.rows

def screenCanvasLog (size : ScreenSize) : List LogRecord :=
  [⟨.target, .debug, "Console canvas " ++ toString size.columns ++ "x" ++ toString size.rows⟩]

/-- An extent that is asked for. Nothing and zero both leave it to the terminal. -/
def chosenExtent (asked : Option Int) (screen : Nat) : Int :=
  match asked with
  | none => screen
  | some extent => if extent = 0 then screen else extent

/-- The canvas for a render that is printed, as large as the terminal but for the extents that
are asked for. -/
def printCanvas (screen : ScreenSize) (width height : Option Int) :
    Except GeometryError Canvas :=
  match width, height with
  | none, none => .ok (screenCanvas screen)
  | _, _ => Canvas.ofInts (chosenExtent width screen.columns) (chosenExtent height screen.rows)

/-- The length from which on there is no room for a row. -/
def rowLimit : Nat := 34359738368

/-- The length of the rows of a canvas for a render that is printed, if there is no room for
them. -/
def rowOverLimit? (screen : ScreenSize) (width height : Option Int) : Option Int :=
  let columns := chosenExtent width screen.columns
  if 0 < chosenExtent height screen.rows && (rowLimit : Int) ≤ columns then some columns else none

/-- Only a canvas that is as large as the terminal as a whole is noted in the log. -/
def printCanvasLog (screen : ScreenSize) (width height : Option Int) : List LogRecord :=
  match width, height with
  | none, none => screenCanvasLog screen
  | _, _ => []

/-- A render that was printed: the canvas drawn on and the output. -/
structure Printout where
  canvas : Canvas
  output : String
deriving DecidableEq, Repr

/-- Why a render was not printed: there was no canvas for it, or it failed. -/
inductive PrintError where
  | canvas (error : GeometryError)
  | render (failure : RenderFailure)

/-- Renders a tree and prints the canvas. A failed render prints nothing. -/
def renderToScreen (root : Node) (subs : Substitutions) (screen : ScreenSize)
    (width height : Option Int) : Except PrintError Printout :=
  match printCanvas screen width height with
  | .error e => .error (.canvas e)
  | .ok canvas =>
    match render root subs canvas with
    | (_, some failure) => .error (.render failure)
    | (drawn, none) => .ok ⟨drawn, printed screen.columns drawn.shownText⟩

end TuiTemplate
