import TuiTemplate.Log
import TuiTemplate.Text.Lowercase
import TuiTemplate.Widget.Node
set_option autoImplicit false

namespace TuiTemplate

/-- How much of its parent a view takes along an axis: the same share as its siblings, or all. -/
inductive ViewExtent where
  | share
  | whole
deriving DecidableEq, Repr

/-- What every view has: a name, if it has one, the class that tells its kind, and its extents. -/
structure ViewHead where
  id : Option String := none
  kindClass : String
  width : ViewExtent := .whole
  height : ViewExtent := .whole
deriving DecidableEq, Repr

/-- A widget as an application shows it: a panel with views side by side or on top of each
other, the text of a leaf, or a label in the stead of a widget that shows nothing by itself. -/
inductive View where
  | panel (head : ViewHead) (direction : Direction) (children : List View)
  | leaf (head : ViewHead) (kind text : String)
  | label (head : ViewHead) (text : String)

/-- Why a widget has no view: its content broke down, or its kind cannot be the name of a
class. -/
inductive ViewError where
  | fault (fault : Fault)
  | badName (name : String)

namespace View

def head : View → ViewHead
  | .panel head _ _ => head
  | .leaf head _ _ => head
  | .label head _ => head

def withHead (v : View) (head : ViewHead) : View :=
  match v with
  | .panel _ direction children => .panel head direction children
  | .leaf _ kind text => .leaf head kind text
  | .label _ text => .label head text

/-- Kind and text of a leaf. -/
def leafText? : View → Option (String × String)
  | .leaf _ kind text => some (kind, text)
  | .panel _ _ _ | .label _ _ => none

mutual

/-- A view and all views in it, each before those in it. -/
def walk : View → List View
  | .panel head direction children => .panel head direction children :: walkAll children
  | .leaf head kind text => [.leaf head kind text]
  | .label head text => [.label head text]

def walkAll : List View → List View
  | [] => []
  | child :: rest => walk child ++ walkAll rest

end

/-- The name of the topmost view. -/
def rootName : String := "template-root"

end View

/-- Whether a character may begin a name. -/
def startsName (c : Char) : Bool := c.isAlpha || c == '_' || c == '-'

def inName (c : Char) : Bool := startsName c || c.isDigit

def isName : List Char → Bool
  | [] => false
  | c :: rest => startsName c && rest.all inName

/-- The class of the views of a kind. -/
def kindClass (kind : String) : String := "kind-" ++ Text.lower kind

/-- The head of a view that stands in a panel, if it stands in one. Views in a panel share its
axis equally and fill the panel across it. -/
def viewHead (kind : String) (panel : Option Direction) : Except ViewError ViewHead :=
  let name := kindClass kind
  if isName name.toList then
    match panel with
    | some .horizontal => .ok { kindClass := name, width := .share }
    | some .vertical => .ok { kindClass := name, height := .share }
    | none => .ok { id := some View.rootName, kindClass := name }
  else .error (.badName name)

/-- Makes views of widgets. It keeps all views of the last tree that it was given, each after
those in it. -/
structure ViewBuilder where
  substitutions : Substitutions
  built : List View := []

namespace ViewBuilder

/-- A builder that has added a view, or the reason why there was none to add. -/
abbrev Step := ViewBuilder × Except ViewError View

def add (b : ViewBuilder) (view : View) : Step := ({ b with built := b.built ++ [view] }, .ok view)

mutual

/-- Adds the views of a widget. The direction is that of the panel it stands in. -/
def addNode (b : ViewBuilder) (panel : Option Direction) : Node → Step
  | .container head axis children =>
    match axis head.attributes with
    | .error e => (b, .error (.fault (.breakdown e.message)))
    | .ok direction =>
      match addNodes b direction children with
      | (after, .error e) => (after, .error e)
      | (after, .ok views) =>
        match viewHead head.kind panel with
        | .error e => (after, .error e)
        | .ok top => after.add (.panel top direction views)
  | .leaf head content =>
    match content head b.substitutions with
    | .error fault => (b, .error (.fault fault))
    | .ok text =>
      match viewHead head.kind panel with
      | .error e => (b, .error e)
      | .ok top => b.add (.leaf top head.kind text)
  | .inert head =>
    match viewHead head.kind panel with
    | .error e => (b, .error e)
    | .ok top => b.add (.label top ("<" ++ head.kind ++ ">"))

def addNodes (b : ViewBuilder) (panel : Direction) :
    List Node → ViewBuilder × Except ViewError (List View)
  | [] => (b, .ok [])
  | child :: rest =>
    match addNode b (some panel) child with
    | (after, .error e) => (after, .error e)
    | (after, .ok view) =>
      match addNodes after panel rest with
      | (done, .error e) => (done, .error e)
      | (done, .ok views) => (done, .ok (view :: views))

end

/-- The view of a whole tree. The views of earlier trees are forgotten. -/
def build (b : ViewBuilder) (root : Node) : Step := addNode { b with built := [] } none root

end ViewBuilder

/-- A build warns of each widget that shows nothing by itself. -/
def viewLog (root : Node) : List LogRecord :=
  (root.walk 0).filterMap fun entry =>
    match entry.2 with
    | .inert head =>
      some ⟨.builder, .warning, "No textual view for widget kind " ++ head.kind⟩
    | .container _ _ _ | .leaf _ _ => none

end TuiTemplate
