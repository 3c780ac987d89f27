import TuiTemplate.Template.Line
import TuiTemplate.Widget.Node
set_option autoImplicit false

namespace TuiTemplate

def indentation (depth : Nat) : String := String.ofList (List.replicate (indentStep * depth) ' ')

/-- The lines that declare a widget at some depth and set its attributes. -/
def declarationLines (depth : Nat) (head : Head) : List String :=
  (indentation depth ++ head.kind ++ ":") ::
    head.explicit.entries.map fun entry =>
      indentation (depth + 1) ++ entry.1 ++ ": " ++ entry.2

def Node.templateLines (root : Node) : List String :=
  (root.walk 0).flatMap fun entry => declarationLines entry.1 entry.2.head

/-- The canonical template of a tree: attributes before children, each line ended. -/
def serialize (root : Node) : String := "\n".intercalate root.templateLines ++ "\n"

end TuiTemplate
