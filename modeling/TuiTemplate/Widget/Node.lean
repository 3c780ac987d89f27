import TuiTemplate.Geometry
import TuiTemplate.Placeholder
import TuiTemplate.Widget.Attribute
set_option autoImplicit false

namespace TuiTemplate

/-- The axis a container divides its area along, as far as its attributes tell. -/
abbrev Axis := Attributes → Except GeometryError Direction

/-- The text a leaf draws. -/
abbrev Content := Head → Substitutions → Except Fault String

/-- A widget with all that is below it. Containers divide their area among their children,
leaves draw a text, and inert widgets do neither. -/
inductive Node where
  | container (head : Head) (axis : Axis) (children : List Node)
  | leaf (head : Head) (content : Content)
  | inert (head : Head)

namespace Node

def head : Node → Head
  | .container head _ _ => head
  | .leaf head _ => head
  | .inert head => head

def children : Node → List Node
  | .container _ _ children => children
  | .leaf _ _ => []
  | .inert _ => []

def withHead (n : Node) (head : Head) : Node :=
  match n with
  | .container _ axis children => .container head axis children
  | .leaf _ content => .leaf head content
  | .inert _ => .inert head

def isContainer : Node → Bool
  | .container _ _ _ => true
  | .leaf _ _ => false
  | .inert _ => false

def kind (n : Node) : String := n.head.kind

def explicit (n : Node) : Attributes := n.head.explicit

def attributes (n : Node) : Attributes := n.head.attributes

/-- The same widget under another kind name. -/
def withKind (n : Node) (kind : String) : Node := n.withHead { n.head with kind := kind }

def acceptAttribute (n : Node) (key value : String) (line : Option Int) :
    Except TemplateError Node :=
  (n.head.setAttribute key value line).map n.withHead

/-- Attaches a child after the others. Leaves refuse, and inert widgets ignore it. -/
def acceptChild (n child : Node) (line : Option Int) : Except TemplateError Node :=
  match n with
  | .container head axis children => .ok (.container head axis (children ++ [child]))
  | .leaf head _ => .error ⟨line, some (child.kind ++ ":"), .childUnderLeaf head.kind⟩
  | .inert _ => .ok n

mutual

/-- A widget and all below it, each before its children, with its depth. -/
def walk (depth : Nat) : Node → List (Nat × Node)
  | .container head axis children =>
    (depth, .container head axis children) :: walkAll (depth + 1) children
  | .leaf head content => [(depth, .leaf head content)]
  | .inert head => [(depth, .inert head)]

def walkAll (depth : Nat) : List Node → List (Nat × Node)
  | [] => []
  | child :: rest => walk depth child ++ walkAll depth rest

end

/-- The walk of a tree that itself hangs at some depth. -/
def walkFrom (start : Int) (n : Node) : List (Int × Node) :=
  (n.walk 0).map fun entry => (start + entry.1, entry.2)

/-- The areas of the children of a container. Other widgets have none. -/
def childRegions? (n : Node) (region : Region) : Option (Except GeometryError (List Region)) :=
  match n with
  | .container head axis children =>
    some ((axis head.attributes).map fun direction => region.split direction children.length)
  | .leaf _ _ | .inert _ => none

/-- The text of a leaf. Other widgets have none. -/
def content? (n : Node) (subs : Substitutions) : Option (Except Fault String) :=
  match n with
  | .leaf head content => some (content head subs)
  | .container _ _ _ | .inert _ => none

/-- The axis of a container. Other widgets have none. -/
def direction? (n : Node) : Option (Except GeometryError Direction) :=
  match n with
  | .container head axis _ => some (axis head.attributes)
  | .leaf _ _ | .inert _ => none

/-- A short mark of a widget with its class, its kind and the attributes that were set. -/
def mark (n : Node) : String :=
  "<" ++ n.head.className ++ " kind=" ++ Text.quote n.kind ++ " attributes=" ++
    (Detail.table (n.explicit.entries.map fun entry => (entry.1, .text entry.2))).render ++ ">"

end Node

end TuiTemplate
