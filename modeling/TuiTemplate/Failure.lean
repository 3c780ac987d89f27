import TuiTemplate.Decimal.Shortest
import TuiTemplate.Text.Quoted
set_option autoImplicit false

namespace TuiTemplate

open Text

/-- A value that a failure carries for the reader of its message. -/
inductive Detail where
  | absent
  | flag (value : Bool)
  | number (value : Int)
  | real (value : Float)
  | text (value : String)
  | list (items : List Detail)
  | tuple (items : List Detail)
  | table (entries : List (String × Detail))
deriving Inhabited

mutual

def Detail.render : Detail → String
  | .absent => "None"
  | .flag value => if value then "True" else "False"
  | .number value => toString value
  | .real value => Decimal.text value
  | .text value => quote value
  | .list items => "[" ++ ", ".intercalate (Detail.renderAll items) ++ "]"
  | .tuple [item] => "(" ++ item.render ++ ",)"
  | .tuple items => "(" ++ ", ".intercalate (Detail.renderAll items) ++ ")"
  | .table entries => "\x7b" ++ ", ".intercalate (Detail.renderEntries entries) ++ "\x7d"

def Detail.renderAll : List Detail → List String
  | [] => []
  | item :: items => item.render :: Detail.renderAll items

def Detail.renderEntries : List (String × Detail) → List String
  | [] => []
  | (key, value) :: rest => (quote key ++ ": " ++ value.render) :: Detail.renderEntries rest

end

/-- What is wrong with a template. `shape` and `definition` are for widget kinds of other
libraries that have a complaint of their own. -/
inductive TemplateFault where
  | other (message : String)
  | shape (message : String)
  | definition (message : String)
  | noRoot (message : String)
  | manyRoots (roots : List String)
  | indentation (expected : Int)
  | notDeclaration
  | notInBlock
  | lateAttribute
  | childUnderLeaf (kind : String)
  | rootNotContainer (kind : String)
  | unknownKind (name : String)
  | unknownAttribute (kind key value : String)
  | invalidValue (kind key value : String) (allowed : List String)
deriving DecidableEq, Repr

/-- A fault with the place it was found at: the line number in the source and the offending
text. -/
structure TemplateError where
  line : Option Int
  text : Option String
  fault : TemplateFault
deriving DecidableEq, Repr

namespace TemplateError

def noRoot : TemplateError :=
  ⟨none, none, .noRoot "Template must contain exactly one root widget"⟩

/-- The complaint itself, without the line number. -/
def complaint (e : TemplateError) : String :=
  let found := quote (e.text.getD "")
  match e.fault with
  | .other message | .shape message | .definition message | .noRoot message => message
  | .manyRoots roots =>
    "Template must contain exactly one root widget, found: " ++ ", ".intercalate roots
  | .indentation expected =>
    "Expected indentation level " ++ toString expected ++ ", but found this instead: " ++ found
  | .notDeclaration =>
    "Expected widget declaration ending with ':', but found this instead: " ++ found
  | .notInBlock =>
    "Expected a widget declaration ending with ':' or an attribute declaration 'key: value', " ++
      "but found this instead: " ++ found
  | .lateAttribute => "Attributes must come before child widgets: " ++ found
  | .childUnderLeaf kind => "Widget '" ++ kind ++ "' cannot contain child widgets"
  | .rootNotContainer kind => "Root widget must be a container, but '" ++ kind ++ "' is not"
  | .unknownKind name => "Invalid widget type '" ++ name ++ "'"
  | .unknownAttribute kind key _ => "Widget '" ++ kind ++ "' has no attribute '" ++ key ++ "'"
  | .invalidValue kind key value allowed =>
    let stated := "Invalid value " ++ quote value ++ " for attribute '" ++ key ++
      "' of widget '" ++ kind ++ "'"
    if allowed.isEmpty then stated
    else stated ++ "; expected one of: " ++ ", ".intercalate allowed

def message (e : TemplateError) : String :=
  match e.line with
  | none => e.complaint
  | some line => "Line " ++ toString line ++ ": " ++ e.complaint

end TemplateError

inductive FailureKind where
  | general (message : String)
  | template (error : TemplateError)
  | render (message : String)
  | file (message : String)
  | configuration (message : String)

/-- A failure that the library reports on purpose. -/
structure Failure where
  kind : FailureKind
  context : List (String × Detail) := []
  retryable : Bool := false

namespace Failure

/-- The message without the context. -/
def plain (f : Failure) : String :=
  match f.kind with
  | .general message | .render message | .file message | .configuration message => message
  | .template error => error.message

def message (f : Failure) : String :=
  if f.context.isEmpty then f.plain
  else
    let shown := f.context.map fun entry => entry.1 ++ "=" ++ entry.2.render
    f.plain ++ " (" ++ ", ".intercalate shown ++ ")"

/-- A name is part of the context only where there is one. -/
def named (key : String) (value : Option String) : List (String × Detail) :=
  match value with
  | some text => if text.isEmpty then [] else [(key, .text text)]
  | none => []

def ofTemplate (error : TemplateError) : Failure := ⟨.template error, [], false⟩

def render (message : String) (widget : Option String) : Failure :=
  ⟨.render message, named "kind" widget, false⟩

def file (message path : String) : Failure := ⟨.file message, named "path" (some path), false⟩

def configuration (message : String) (setting : Option String) : Failure :=
  ⟨.configuration message, named "setting" setting, false⟩

end Failure

/-- What can stop a computation: a failure reported on purpose, or any other breakdown, of which
only the message is known. -/
inductive Fault where
  | failure (f : Failure)
  | breakdown (message : String)

namespace Fault

def message : Fault → String
  | .failure f => f.message
  | .breakdown message => message

end Fault

end TuiTemplate
