import TuiTemplate.Failure
import TuiTemplate.OrderedMap
import TuiTemplate.Text.Case
import TuiTemplate.Text.Digit
import TuiTemplate.Text.Lowercase
set_option autoImplicit false

namespace TuiTemplate

open Text

/-- The variables of the environment that are set. -/
abbrev Environment := OrderedMap String

/-- What the environment can set. -/
inductive Setting where
  | width
  | height
  | logLevel
deriving DecidableEq, Repr

namespace Setting

def all : List Setting := [.width, .height, .logLevel]

def name : Setting → String
  | .width => "TERMDECL_WIDTH"
  | .height => "TERMDECL_HEIGHT"
  | .logLevel => "TERMDECL_LOG_LEVEL"

def ofName? (name : String) : Option Setting := all.find? fun s => s.name == name

/-- The value of a setting whose variable is not set. -/
def default : Setting → String
  | .width => "80"
  | .height => "24"
  | .logLevel => "WARNING"

def logLevels : List String := ["DEBUG", "INFO", "WARNING", "ERROR", "CRITICAL"]

/-- What a value has to be. -/
def demand : Setting → String
  | .width | .height => "Must be a positive integer"
  | .logLevel => "Valid values: " ++ (Detail.list (logLevels.map Detail.text)).render

/-- The complaint about a value that is refused. -/
def complaint (s : Setting) (value : String) : String :=
  "Invalid value '" ++ value ++ "' for " ++ s.name ++ ". " ++ s.demand

/-- What is wrong with the value of an extent. Digits that are no decimal digits pass for digits
but cannot be read. -/
def checkExtent (s : Setting) (value : String) : Except NumeralError (Option String) :=
  let cs := trimChars value.toList
  if cs.isEmpty || !cs.all isDigit then .ok (some (s.complaint value))
  else (parseNumeral value).map fun n => if n = 0 then some (s.complaint value) else none

/-- What is wrong with a value, if anything. Letter case does not matter in log levels. -/
def check (s : Setting) (value : String) : Except NumeralError (Option String) :=
  match s with
  | .width | .height => s.checkExtent value
  | .logLevel =>
    if (logLevels.map lower).contains (lower value) then .ok none
    else .ok (some (s.complaint value))

end Setting

/-- Why a setting has no usable value. -/
inductive SettingError where
  | invalid (failure : Failure)
  | unreadable (error : NumeralError)

namespace SettingError

def toFault : SettingError → Fault
  | .invalid failure => .failure failure
  | .unreadable error => .breakdown error.message

end SettingError

/-- What is wrong with the value of a variable. Variables that are no settings may hold
anything. -/
def checkVariable (name : String) (value : Option String) :
    Except NumeralError (Option String) :=
  match Setting.ofName? name, value with
  | some setting, some value => setting.check value
  | _, _ => .ok none

namespace Environment

/-- The value of a variable as it is, or the default of its setting. -/
def lookup (env : Environment) (name : String) : Option String :=
  match env.get? name with
  | some value => some value
  | none => (Setting.ofName? name).map Setting.default

/-- The value of a variable, which is refused if it is not valid. -/
def lookupValid (env : Environment) (name : String) : Except SettingError (Option String) :=
  match checkVariable name (env.get? name) with
  | .error e => .error (.unreadable e)
  | .ok (some complaint) => .error (.invalid (.configuration complaint (some name)))
  | .ok none => .ok (env.lookup name)

/-- The complaints about all settings. -/
def complaints (env : Environment) : Except NumeralError (List String) :=
  (Setting.all.mapM fun s => checkVariable s.name (env.get? s.name)).map fun found =>
    found.filterMap id

/-- The number of columns or rows that the environment asks for. -/
def extent (env : Environment) (s : Setting) : Except SettingError Nat := do
  let value ← env.lookupValid s.name
  (parseNumeral (value.getD s.default)).mapError .unreadable

/-- Width and height of a render that has no target of its own. -/
def renderSize (env : Environment) : Except SettingError (Nat × Nat) := do
  let width ← env.extent .width
  let height ← env.extent .height
  return (width, height)

/-- The name of the log level in capitals. -/
def logLevel (env : Environment) : Except SettingError String :=
  (env.lookupValid Setting.logLevel.name).map fun value =>
    upper (value.getD Setting.logLevel.default)

end Environment

end TuiTemplate
