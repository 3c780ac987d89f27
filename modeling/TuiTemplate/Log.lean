set_option autoImplicit false

namespace TuiTemplate

inductive LogLevel where
  | debug
  | info
  | warning
  | error
  | critical
deriving DecidableEq, Repr

/-- The parts of the library that keep a log. -/
inductive LogSource where
  | registry
  | parser
  | loader
  | engine
  | target
  | builder
  | preview
  | errors
deriving DecidableEq, Repr

structure LogRecord where
  source : LogSource
  level : LogLevel
  message : String
deriving DecidableEq, Repr

namespace LogLevel

def name : LogLevel → String
  | .debug => "DEBUG"
  | .info => "INFO"
  | .warning => "WARNING"
  | .error => "ERROR"
  | .critical => "CRITICAL"

def severity : LogLevel → Nat
  | .debug => 10
  | .info => 20
  | .warning => 30
  | .error => 40
  | .critical => 50

end LogLevel

namespace LogSource

/-- The name under which a part logs. All lie below the name of the package. -/
def name : LogSource → String
  | .registry => "termdecl.widgets.registry"
  | .parser => "termdecl.template.parser"
  | .loader => "termdecl.template.loader"
  | .engine => "termdecl.render.engine"
  | .target => "termdecl.render.target"
  | .builder => "termdecl.ui.builder"
  | .preview => "termdecl.ui.app"
  | .errors => "termdecl.utils.error_handling"

end LogSource

end TuiTemplate
