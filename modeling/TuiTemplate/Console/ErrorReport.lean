import TuiTemplate.Failure
import TuiTemplate.Log
import TuiTemplate.Text.Markup
import TuiTemplate.Text.Tabs
set_option autoImplicit false

namespace TuiTemplate

open Text

/-- Lines of markup as a terminal shows them. -/
def printedMarkup : List String → Except Markup.Error String
  | [] => .ok ""
  | line :: rest => do
    let shown ← Markup.shown line
    return expandTabs shown ++ "\n" ++ (← printedMarkup rest)

/-- How commands report failures. -/
structure ReportOptions where
  exitCode : Int := 1
  logTraceback : Bool := false
deriving DecidableEq, Repr

namespace Failure

/-- The lines of markup that report a failure of an operation. The operation itself may hold
markup. -/
def reportLines (f : Failure) (operation : String) : List String :=
  match f.kind with
  | .template error =>
    Markup.styled "red" ("Template error: " ++ Markup.escape f.plain) ::
      match error.text with
      | some text =>
        if text.isEmpty then [] else [Markup.styled "dim" ("  " ++ Markup.escape text)]
      | none => []
  | .file _ => [Markup.styled "red" ("Error: " ++ Markup.escape f.message)]
  | .configuration _ => [Markup.styled "red" ("Configuration error: " ++ Markup.escape f.message)]
  | .render _ => [Markup.styled "red" ("Render error: " ++ Markup.escape f.message)]
  | .general _ => [Markup.styled "red" ("Error " ++ operation ++ ": " ++ Markup.escape f.plain)]

/-- What a report leaves in the log, if the log is to have it. Only failures that tell nothing
about the input are logged. -/
def reportLog (f : Failure) (operation : String) (options : ReportOptions) : List LogRecord :=
  if options.logTraceback then
    match f.kind with
    | .render _ =>
      [⟨.errors, .error, "Render error during " ++ operation ++ ": " ++ f.message⟩]
    | .general _ => [⟨.errors, .error, "Error during " ++ operation ++ ": " ++ f.message⟩]
    | .template _ | .file _ | .configuration _ => []
  else []

/-- The report of a failure as a terminal shows it. -/
def report (f : Failure) (operation : String) : Except Markup.Error String :=
  printedMarkup (f.reportLines operation)

end Failure

end TuiTemplate
