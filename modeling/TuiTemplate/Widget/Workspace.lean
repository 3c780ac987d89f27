import TuiTemplate.Widget.Node
set_option autoImplicit false

namespace TuiTemplate

/-- What a widget that may be shared does: as in a tree, but with its children by reference. -/
inductive SharedRole where
  | container (axis : Axis) (children : List Nat)
  | leaf (content : Content)
  | inert

structure SharedWidget where
  head : Head
  role : SharedRole

/-- Widgets under construction, each known by a name. A widget may hang below several others,
and then all of them see what happens to it later. -/
structure Workspace where
  widgets : List SharedWidget := []
  names : OrderedMap Nat := {}

namespace Workspace

/-- A tree of the given depth at most, unfolded from a widget. -/
def unfold (w : Workspace) : Nat → Nat → Option Node
  | 0, _ => none
  | depth + 1, index =>
    match w.widgets[index]? with
    | none => none
    | some ⟨head, .container axis children⟩ =>
      some (.container head axis (children.filterMap (w.unfold depth)))
    | some ⟨head, .leaf content⟩ => some (.leaf head content)
    | some ⟨head, .inert⟩ => some (.inert head)

/-- The tree below a named widget. Without a widget below itself, no branch is longer than
their number. -/
def tree? (w : Workspace) (name : String) : Option Node :=
  (w.names.get? name).bind (w.unfold w.widgets.length)

/-- The widget itself, with its children but nothing below them. -/
def top? (w : Workspace) (name : String) : Option Node := (w.names.get? name).bind (w.unfold 2)

/-- Puts a fresh widget under a name. A widget that had the name keeps its place in others. -/
def create (w : Workspace) (name : String) (prototype : Node) : Workspace :=
  let role : SharedRole :=
    match prototype with
    | .container _ axis _ => .container axis []
    | .leaf _ content => .leaf content
    | .inert _ => .inert
  ⟨w.widgets ++ [⟨prototype.head, role⟩], w.names.insert name w.widgets.length⟩

def replace (w : Workspace) (index : Nat) (widget : SharedWidget) : Workspace :=
  { w with widgets := w.widgets.set index widget }

/-- Sets an attribute of a named widget, or tells why it is refused. -/
def setAttribute (w : Workspace) (name key value : String) (line : Option Int) :
    Option (Except TemplateError Workspace) := do
  let index ← w.names.get? name
  let widget ← w.widgets[index]?
  return (widget.head.setAttribute key value line).map fun head =>
    w.replace index { widget with head := head }

/-- Hangs a named widget below another one, after its other children. -/
def attach (w : Workspace) (name child : String) (line : Option Int) :
    Option (Except TemplateError Workspace) := do
  let index ← w.names.get? name
  let widget ← w.widgets[index]?
  let childIndex ← w.names.get? child
  let childWidget ← w.widgets[childIndex]?
  return match widget.role with
    | .container axis children =>
      .ok (w.replace index { widget with role := .container axis (children ++ [childIndex]) })
    | .leaf _ =>
      .error ⟨line, some (childWidget.head.kind ++ ":"), .childUnderLeaf widget.head.kind⟩
    | .inert => .ok w

end Workspace

end TuiTemplate
