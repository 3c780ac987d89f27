import TuiTemplate.Log
import TuiTemplate.OrderedMap
import TuiTemplate.Text.Case
import TuiTemplate.Text.Quoted
set_option autoImplicit false

namespace TuiTemplate

/-- The logger above those of all parts of the library. -/
def packageLogger : String := "termdecl"

/-- How a record looks in the log. -/
def recordFormat : String := "%(asctime)s - %(name)s - %(levelname)s - %(message)s"

namespace LogLevel

/-- The least severe level that is let through, by its name in capitals. The name `NOTSET` leaves
that open. -/
def threshold? : String → Option (Option LogLevel)
  | "NOTSET" => some none
  | "DEBUG" => some (some .debug)
  | "INFO" => some (some .info)
  | "WARN" | "WARNING" => some (some .warning)
  | "ERROR" => some (some .error)
  | "FATAL" | "CRITICAL" => some (some .critical)
  | _ => none

def thresholdName : Option LogLevel → String
  | none => "NOTSET"
  | some level => level.name

end LogLevel

/-- A name that is no log level. -/
structure UnknownLevel where
  name : String
deriving DecidableEq, Repr

def UnknownLevel.message (e : UnknownLevel) : String := "Unknown level: " ++ Text.quote e.name

structure Logger where
  threshold : Option LogLevel := none
  formats : List String := []
deriving DecidableEq, Repr

/-- The loggers that were asked for so far. -/
abbrev Loggers := OrderedMap Logger

namespace Loggers

/-- A logger by its name. The first time it gets a handler, and it keeps it even if the level
then turns out to be unknown. An empty level changes nothing. -/
def obtain (loggers : Loggers) (name : String) (level : Option String) :
    Loggers × Except UnknownLevel Logger :=
  let known := (loggers.get? name).getD {}
  let ready : Logger :=
    if known.formats.isEmpty then { known with formats := [recordFormat] } else known
  let wanted := Text.upper (level.getD "")
  if wanted.isEmpty then (loggers.insert name ready, .ok ready)
  else
    match LogLevel.threshold? wanted with
    | none => (loggers.insert name ready, .error ⟨wanted⟩)
    | some threshold =>
      let adjusted := { ready with threshold := threshold }
      (loggers.insert name adjusted, .ok adjusted)

/-- Sets up the logger of the package: everything passes if asked for, and else what the level
says, or warnings. -/
def configure (loggers : Loggers) (verbose : Bool) (level : Option String) :
    Loggers × Except UnknownLevel Logger :=
  let stated := level.getD ""
  obtain loggers packageLogger
    (some (if verbose then "DEBUG" else if stated.isEmpty then "WARNING" else stated))

end Loggers

end TuiTemplate
