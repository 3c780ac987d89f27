import TuiTemplate.Widget.Node
set_option autoImplicit false

namespace TuiTemplate

/-- The container that takes its axis from its attribute `direction`. -/
def layoutWidget : Node :=
  .container
    { className := "LayoutWidget"
      kind := "Layout"
      specs := [⟨"direction", some (Direction.all.map Direction.name), some "vertical"⟩] }
    (fun attributes =>
      let name := (attributes.get? "direction").getD ""
      match Direction.ofName? name with
      | some direction => .ok direction
      | none => .error (.unknownDirection name))
    []

/-- The text a paragraph shows: its attribute `text`, kept as written until it is drawn. -/
def paragraphWidget : Node :=
  .leaf
    { className := "ParagraphWidget"
      kind := "Paragraph"
      specs := [⟨"text", none, some ""⟩] }
    (fun head subs => .ok (renderText ((head.attributes.get? "text").getD "") subs))

end TuiTemplate
