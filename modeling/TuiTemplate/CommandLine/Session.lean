import TuiTemplate.Assignment
import TuiTemplate.CommandLine.Command
import TuiTemplate.Console.ErrorReport
import TuiTemplate.Console.KindTable
import TuiTemplate.Console.Outline
import TuiTemplate.Console.Screen
import TuiTemplate.Logging
import TuiTemplate.SubstitutionFile
import TuiTemplate.Template.Printer
import TuiTemplate.Template.Source
import TuiTemplate.Widget.Keys
import TuiTemplate.Yaml.Mapping
set_option autoImplicit false

namespace TuiTemplate

open Text

def versionNumber : String := "0.3.0"

/-- The substitutions that a file holds. -/
def loadSubstitutions (disk : Disk) (path : Path) : Except SubstitutionError Substitutions :=
  readSubstitutions Yaml.loader disk path

/-- What a command line runs against. -/
structure Session where
  registry : Registry := .builtin
  disk : Disk
  environment : Environment
  screen : ScreenSize

/-- Something that a command does: it prints, complains on the error stream, writes a file, or
opens a preview. -/
inductive Effect where
  | print (text : String)
  | complain (text : String)
  | log (record : LogRecord)
  | write (path : Path) (text : String)
  | preview (root : Node) (subs : Substitutions) (path : Path)

/-- A breakdown that no command reports. -/
inductive Crash where
  | breakdown (message : String)
  | numeral (error : NumeralError)
  | undecodable (error : Utf8Error)
  | noValue (error : Yaml.ScalarError)
  | markup (error : Markup.Error)
  | noRoom (columns : Int)

def Crash.message : Crash → String
  | .breakdown message => message
  | .numeral error => error.message
  | .undecodable error => error.message
  | .noValue error => error.message
  | .markup error => error.message
  | .noRoom columns => "There is no room for a row of " ++ toString columns ++ " cells"

inductive Ending where
  | done
  | failed
  | misused
  | crashed (crash : Crash)

/-- The status that a command leaves. -/
def Ending.exitCode : Ending → Nat
  | .done => 0
  | .failed => 1
  | .misused => 2
  | .crashed _ => 1

/-- What a command does, in order, and how it ends. -/
structure Run where
  effects : List Effect := []
  ending : Ending := .done

namespace Run

/-- One after the other, unless the first does not come to its end. -/
def andThen (first second : Run) : Run :=
  match first.ending with
  | .done => ⟨first.effects ++ second.effects, second.ending⟩
  | _ => first

def one (effect : Effect) : Run := ⟨[effect], .done⟩

def logs (records : List LogRecord) : Run := ⟨records.map Effect.log, .done⟩

def crash (crash : Crash) : Run := ⟨[], .crashed crash⟩

/-- Prints a text, if its markup is in order. -/
def shown : Except Markup.Error String → Run
  | .ok text => one (.print text)
  | .error e => crash (.markup e)

def warn (complaint : String) : Run :=
  match printedMarkup [Markup.styled "yellow" ("Warning: " ++ Markup.escape complaint)] with
  | .ok text => one (.complain text)
  | .error e => crash (.markup e)

/-- Reports a failure of an operation. Other breakdowns are not reported. -/
def fail (operation : String) : Fault → Run
  | .breakdown message => crash (.breakdown message)
  | .failure failure =>
    match failure.report operation with
    | .ok text => ⟨[.complain text], .failed⟩
    | .error e => crash (.markup e)

def failSubstitutions (operation : String) : SubstitutionError → Run
  | .failure failure | .malformed failure => fail operation (.failure failure)
  | .brokenPath => crash (.breakdown Path.zeroMessage)
  | .undecodable error => crash (.undecodable error)
  | .noValue error => crash (.noValue error)

/-- Leaves out the records that are less severe than the threshold of the log. -/
def atThreshold (threshold : LogLevel) (run : Run) : Run :=
  { run with
    effects := run.effects.filter fun
      | .log record => threshold.severity ≤ record.level.severity
      | .print _ | .complain _ | .write _ _ | .preview _ _ _ => true }

end Run

namespace Session

/-- Goes on with the tree of a template file. -/
def withTemplate (s : Session) (operation : String) (path : Path) (next : Node → Run) : Run :=
  (Run.logs (compileFileLog s.registry s.disk path)).andThen
    (match compileFile s.registry s.disk path with
      | .error e => .fail operation e.toFault
      | .ok root => next root)

/-- Goes on with the substitutions of all sources. -/
def withSubstitutions (s : Session) (operation : String) (sources : SubstitutionSources)
    (next : Substitutions → Run) : Run :=
  let stated : Except SubstitutionError Substitutions :=
    match sources.file with
    | none => .ok .empty
    | some path => loadSubstitutions s.disk path
  match stated with
  | .error e => .failSubstitutions operation e
  | .ok subs =>
    match parseAssignments sources.assignments with
    | .error failure => .fail operation (.failure failure)
    | .ok assigned => next (subs.update assigned)

def renderLogs (s : Session) (root : Node) (width height : Option Int) : List LogRecord :=
  printCanvasLog s.screen width height ++
    match printCanvas s.screen width height with
    | .ok canvas => renderLog root canvas.area
    | .error _ => []

/-- Prints a render of the tree. -/
def render (s : Session) (operation : String) (root : Node) (subs : Substitutions)
    (width height : Option Nat) : Run :=
  let width := width.map Int.ofNat
  let height := height.map Int.ofNat
  match rowOverLimit? s.screen width height with
  | some columns => .crash (.noRoom columns)
  | none =>
    (Run.logs (s.renderLogs root width height)).andThen
      (match renderToScreen root subs s.screen width height with
        | .ok printout => .one (.print printout.output)
        | .error (.canvas e) => .crash (.breakdown e.message)
        | .error (.render e) => .fail operation (.failure e.failure))

/-- Prints lines of markup that are not folded, up to the first whose markup is not in order. -/
def print (s : Session) (lines : List String) : Run :=
  lines.foldr (fun line rest =>
    (Run.shown ((Markup.shown line).map (printed s.screen.columns))).andThen rest) {}

/-- The report on a template that compiles: its size, its root and the keys it asks for. -/
def checkReport (path : Path) (root : Node) : List String :=
  let keys := root.placeholderKeys
  Markup.styled "green"
      ("✅ " ++ Markup.escape path.text ++ ": " ++ toString (root.walk 0).length ++
        " widgets, root " ++ Markup.escape root.kind) ::
    if keys.isEmpty then [] else ["Placeholders: " ++ Markup.escape (", ".intercalate keys)]

/-- What a command does. -/
def perform (s : Session) : Command → Run
  | .check path =>
    s.withTemplate "checking template" path fun root =>
      s.print (checkReport path root)
  | .tree path =>
    s.withTemplate "showing template tree" path fun root => .shown root.printedOutline
  | .render path sources width height =>
    let operation := "rendering template"
    s.withTemplate operation path fun root =>
      s.withSubstitutions operation sources fun subs =>
        s.render operation root subs width height
  | .preview path sources =>
    let operation := "previewing template"
    s.withTemplate operation path fun root =>
      s.withSubstitutions operation sources fun subs => .one (.preview root subs path)
  | .format path inPlace =>
    s.withTemplate "formatting template" path fun root =>
      if inPlace then
        (Run.one (.write path (serialize root))).andThen
          (s.print [Markup.styled "green" ("Formatted " ++ Markup.escape path.text)])
      else .one (.print (String.ofList (withoutSequences (serialize root).toList)))
  | .kinds => .shown s.registry.printedKinds
  | .version => .one (.print ("termdecl version " ++ versionNumber ++ "\n"))

/-- The least severe level of the log, which is that of warnings if the environment names none
that is known. -/
def threshold (s : Session) (verbose : Bool) : LogLevel :=
  let stated := s.environment.logLevel.toOption
  match (Loggers.configure .empty verbose stated).2 with
  | .ok logger => logger.threshold.getD .warning
  | .error _ => .warning

/-- What a command line does. Settings that make no sense are complained about before the words
of the command are read. -/
def run (s : Session) (words : List String) : Run :=
  match Invocation.ofWords? words with
  | none => ⟨[], .misused⟩
  | some invocation =>
    match s.environment.complaints with
    | .error e => .crash (.numeral e)
    | .ok complaints =>
      let performed : Run :=
        match Command.ofWords? s.disk invocation.name invocation.words with
        | none => ⟨[], .misused⟩
        | some command => s.perform command
      (complaints.foldr (fun complaint rest => (Run.warn complaint).andThen rest) performed)
        |>.atThreshold (s.threshold invocation.verbose)

end Session

end TuiTemplate
