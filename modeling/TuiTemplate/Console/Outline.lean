import TuiTemplate.Text.Markup
import TuiTemplate.Text.Tabs
import TuiTemplate.Widget.Node
set_option autoImplicit false

namespace TuiTemplate

open Text

/-- Puts one text before the first entry and another one before those that follow. -/
def hang (first others : String) : List (String × Head) → List (String × Head)
  | [] => []
  | entry :: rest =>
    (first ++ entry.1, entry.2) :: rest.map fun below => (others ++ below.1, below.2)

mutual

/-- The widgets of a tree, each before its children, with the lines that lead to it. -/
def Node.outline : Node → List (String × Head)
  | .container head _ children => ("", head) :: Node.outlineAll children
  | .leaf head _ => [("", head)]
  | .inert head => [("", head)]

def Node.outlineAll : List Node → List (String × Head)
  | [] => []
  | child :: rest =>
    if rest.isEmpty then hang "└── " "    " (Node.outline child)
    else hang "├── " "│   " (Node.outline child) ++ Node.outlineAll rest

end

namespace Head

/-- The markup that describes a widget: its kind and the values of its attributes. -/
def label (h : Head) : String :=
  let kind := Markup.styled "bold cyan" (Markup.escape h.kind)
  let shown := h.attributes.entries.map fun entry => entry.1 ++ "=" ++ entry.2
  if shown.isEmpty then kind
  else kind ++ " " ++ Markup.styled "dim" (Markup.escape (", ".intercalate shown))

end Head

/-- A line of the outline as a terminal shows it. Tab stops are counted from where the label
begins. -/
def outlineLine (entry : String × Head) : Except Markup.Error String :=
  (Markup.shown entry.2.label).map fun shown => entry.1 ++ expandTabs shown ++ "\n"

def Node.printedOutline (root : Node) : Except Markup.Error String :=
  (root.outline.mapM outlineLine).map String.join

end TuiTemplate
