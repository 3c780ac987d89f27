import Std.Time.Zoned
import TuiTemplate.CommandLine.Session
import TuiTemplate.Preview
set_option autoImplicit false

namespace TuiTemplate

def fileError : IO.Error → FileError
  | .noFileOrDirectory _ _ _ => .notFound
  | .inappropriateType _ code details =>
    if code = 21 then .isDirectory else if code = 20 then .notDirectory
    else .other code.toNat details
  | .permissionDenied _ code details => .other code.toNat details
  | error => .other 5 (toString error)

/-- Reads files once, so that all that follows sees the same content. -/
def readFiles (paths : List Path) : IO Disk := do
  let contents ← paths.mapM fun path => do
    try
      let bytes ← IO.FS.readBinFile path.text
      return (path, Except.ok bytes.toList)
    catch error => return (path, Except.error (fileError error))
  return ⟨fun path => (contents.lookup path).getD (.error .notFound)⟩

def readEnvironment : IO Environment := do
  let names := Setting.all.map Setting.name ++ ["COLUMNS", "LINES"]
  let found ← names.filterMapM fun name => do
    return (← IO.getEnv name).map fun value => (name, value)
  return .ofList found

def twoDigits (n : Int) : String :=
  let digits := toString n
  if digits.length < 2 then "0" ++ digits else digits

/-- The present date and time. -/
def now : IO String := do
  let time ← Std.Time.PlainDateTime.now
  let date := "-".intercalate
    [toString time.year.toInt, twoDigits time.month.val, twoDigits time.day.val]
  let clock := ":".intercalate
    [twoDigits time.hour.val, twoDigits time.minute.val, twoDigits time.second.val]
  return date ++ " " ++ clock

/-- Shows the tree and its last message, and then waits for a key on a line of its own. -/
partial def showPreview (registry : Registry) (screen : ScreenSize) (p : Preview) : IO Unit := do
  if p.exited then return
  IO.println p.title
  match renderToScreen p.root p.builder.substitutions screen none none with
  | .ok printout => IO.print printout.output
  | .error _ => pure ()
  match p.notices.getLast? with
  | some notice => IO.println notice.message
  | none => pure ()
  let line ← (← IO.getStdin).getLine
  if line.isEmpty then return
  let disk ← readFiles p.path.toList
  match p.press registry disk (Text.trim line) with
  | .ok after => showPreview registry screen after
  | .error (.fault fault) => IO.eprintln fault.message
  | .error (.badName name) => IO.eprintln name

def perform (session : Session) : Effect → IO Unit
  | .print text => IO.print text
  | .complain text => IO.eprint text
  | .log record => do
    IO.eprintln (" - ".intercalate
      [← now, record.source.name, record.level.name, record.message])
  | .write path text => IO.FS.writeFile path.text text
  | .preview root subs path =>
    match Preview.start root subs (some path) with
    | .ok p => showPreview session.registry session.screen p
    | .error (.fault fault) => IO.eprintln fault.message
    | .error (.badName name) => IO.eprintln name

end TuiTemplate

open TuiTemplate in
def main (words : List String) : IO UInt32 := do
  let environment ← readEnvironment
  let fileWords := match Invocation.ofWords? words with
    | some invocation => Command.fileWords invocation.name invocation.words
    | none => []
  let disk ← readFiles (fileWords.map Path.ofString)
  match ScreenSize.ofEnvironment environment with
  | .error e =>
    IO.eprintln e.message
    return 1
  | .ok screen =>
    let session : Session := { disk := disk, environment := environment, screen := screen }
    let run := session.run words
    for effect in run.effects do
      perform session effect
    match run.ending with
    | .misused => IO.eprintln "Unknown command or option, or a file is missing"
    | .crashed crash => IO.eprintln crash.message
    | .done | .failed => pure ()
    return run.ending.exitCode.toUInt32
