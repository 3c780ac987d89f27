import TuiTemplate.Template.Source
import TuiTemplate.View
set_option autoImplicit false

namespace TuiTemplate

inductive NoticeSeverity where
  | information
  | warning
  | error
deriving DecidableEq, Repr

/-- A short message on top of the preview, and for how many seconds it stays. -/
structure Notice where
  message : String
  title : String := ""
  severity : NoticeSeverity := .information
  seconds : Nat := 5
deriving DecidableEq, Repr

/-- What a key makes the preview do. -/
inductive PreviewAction where
  | reload
  | quit
  | explainQuit
deriving DecidableEq, Repr

def PreviewAction.ofKey? : String → Option PreviewAction
  | "r" => some .reload
  | "q" | "escape" | "ctrl+q" => some .quit
  | "ctrl+c" => some .explainQuit
  | _ => none

/-- A tree on the screen, and the template file it can be read from again. -/
structure Preview where
  root : Node
  path : Option Path
  builder : ViewBuilder
  view : View
  notices : List Notice := []
  exited : Bool := false

/-- What the key that stops other programs brings up. -/
def quitNotice : Notice :=
  { message := "Press [b]ctrl+q[/b] to quit the app", title := "Do you want to quit?" }

namespace Preview

/-- Shows a tree. -/
def start (root : Node) (subs : Substitutions) (path : Option Path) : Except ViewError Preview :=
  match ViewBuilder.build ⟨subs, []⟩ root with
  | (_, .error e) => .error e
  | (builder, .ok view) => .ok { root := root, path := path, builder := builder, view := view }

/-- What stands above the preview. -/
def title (p : Preview) : String :=
  match p.path with
  | some path => path.text
  | none => "TemplateApp"

def notify (p : Preview) (notice : Notice) : Preview := { p with notices := p.notices ++ [notice] }

/-- Shows another tree in the stead of the present one. -/
def replace (p : Preview) (root : Node) : Except ViewError Preview :=
  match p.builder.build root with
  | (_, .error e) => .error e
  | (builder, .ok view) => .ok { p with root := root, builder := builder, view := view }

/-- The tree stays as it is, and the reader is told why. -/
def keep (p : Preview) (failure : Failure) : Preview :=
  p.notify ⟨failure.message, "Template error", .error, 8⟩

/-- Reads the template file again. A file that cannot be read or does not compile leaves the
tree as it is. -/
def reload (registry : Registry) (disk : Disk) (p : Preview) : Except ViewError Preview :=
  match p.path with
  | none =>
    .ok (p.notify { message := "No template file to reload", severity := .warning })
  | some path =>
    match compileFile registry disk path with
    | .ok root =>
      (p.replace root).map fun shown => shown.notify { message := "Template reloaded" }
    | .error e =>
      match e.toFault with
      | .failure failure =>
        match failure.kind with
        | .template _ | .file _ => .ok (p.keep failure)
        | .general _ | .render _ | .configuration _ => .error (.fault (.failure failure))
      | .breakdown message => .error (.fault (.breakdown message))

/-- What a key does. After the preview was left no key does anything. -/
def press (registry : Registry) (disk : Disk) (p : Preview) (key : String) :
    Except ViewError Preview :=
  if p.exited then .ok p
  else
    match PreviewAction.ofKey? key with
    | none => .ok p
    | some .quit => .ok { p with exited := true }
    | some .explainQuit => .ok (p.notify quitNotice)
    | some .reload => p.reload registry disk

end Preview

end TuiTemplate
