import TuiTemplate.Widget.Node
set_option autoImplicit false

namespace TuiTemplate

/-- The keys of the placeholders in the attributes that were set, each where it is first met on
a walk through the tree. -/
def Node.placeholderKeys (root : Node) : List String :=
  ((root.walk 0).flatMap fun entry => entry.2.explicit.values.flatMap placeholders).eraseDups

end TuiTemplate
