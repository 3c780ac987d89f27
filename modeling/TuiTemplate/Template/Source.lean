import TuiTemplate.Files.Disk
import TuiTemplate.Template.Parser
import TuiTemplate.Text.Utf8
set_option autoImplicit false

namespace TuiTemplate

open Text

/-- The text of a template file. A path that cannot be looked up breaks off. -/
def loadTemplate (disk : Disk) (path : Path) : Except Fault String :=
  let failure (message : String) : Fault := .failure (.file message path.text)
  let unreadable (reason : String) : Fault := failure ("Could not read template file: " ++ reason)
  if !path.isWhole then .error (.breakdown Path.zeroMessage)
  else
    match disk.read path with
    | .error .notFound => .error (failure "Template file not found")
    | .error e => .error (unreadable (e.message path))
    | .ok bytes =>
      match decodeUtf8 bytes with
      | .error e => .error (unreadable e.message)
      | .ok text => .ok (String.ofList (unifyNewlineChars text))

/-- A template that was read leaves a note of its length in the log. -/
def loadTemplateLog (disk : Disk) (path : Path) : List LogRecord :=
  match loadTemplate disk path with
  | .error _ => []
  | .ok text =>
    [⟨.loader, .debug, "Loaded template " ++ path.text ++ " (" ++ toString text.length ++
      " chars)"⟩]

/-- Why a template file gave no widget. -/
inductive SourceError where
  | file (fault : Fault)
  | template (error : CompileError)

namespace SourceError

def toFault : SourceError → Fault
  | .file fault => fault
  | .template error => error.toFault

end SourceError

/-- The widget that a template file declares. -/
def compileFile (registry : Registry) (disk : Disk) (path : Path) : Except SourceError Node :=
  match loadTemplate disk path with
  | .error fault => .error (.file fault)
  | .ok text => (compile registry text).mapError .template

def compileFileLog (registry : Registry) (disk : Disk) (path : Path) : List LogRecord :=
  loadTemplateLog disk path ++
    match loadTemplate disk path with
    | .error _ => []
    | .ok text => compileLog registry text

end TuiTemplate
