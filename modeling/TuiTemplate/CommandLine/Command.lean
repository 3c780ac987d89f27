import TuiTemplate.CommandLine.Options
import TuiTemplate.Files.Disk
import TuiTemplate.Text.Digit
set_option autoImplicit false

namespace TuiTemplate

open Text

inductive CommandName where
  | check
  | tree
  | render
  | preview
  | format
  | kinds
  | version
deriving DecidableEq, Repr

def CommandName.ofString? : String → Option CommandName
  | "check" => some .check
  | "tree" => some .tree
  | "render" => some .render
  | "preview" => some .preview
  | "format" => some .format
  | "kinds" => some .kinds
  | "version" => some .version
  | _ => none

/-- The options of all commands. -/
inductive CommandOption where
  | verbose
  | assignment
  | values
  | width
  | height
  | write
deriving DecidableEq, Repr

namespace CommandOption

def spec : CommandOption → OptionSpec CommandOption
  | .verbose => { key := .verbose, long := "--verbose", short := some 'v', takesValue := false }
  | .assignment => { key := .assignment, long := "--set", short := some 's' }
  | .values => { key := .values, long := "--values" }
  | .width => { key := .width, long := "--width" }
  | .height => { key := .height, long := "--height" }
  | .write => { key := .write, long := "--write", takesValue := false }

end CommandOption

namespace CommandName

def options : CommandName → List CommandOption
  | .render => [.assignment, .values, .width, .height]
  | .preview => [.assignment, .values]
  | .format => [.write]
  | .check | .tree | .kinds | .version => []

end CommandName

/-- Where substitutions come from. Assignments win over the file. -/
structure SubstitutionSources where
  file : Option Path := none
  assignments : List String := []
deriving DecidableEq, Repr

inductive Command where
  | check (template : Path)
  | tree (template : Path)
  | render (template : Path) (sources : SubstitutionSources) (width height : Option Nat)
  | preview (template : Path) (sources : SubstitutionSources)
  | format (template : Path) (write : Bool)
  | kinds
  | version
deriving DecidableEq, Repr

/-- A command line up to the words that the command itself reads. -/
structure Invocation where
  verbose : Bool
  name : CommandName
  words : List String
deriving DecidableEq, Repr

/-- Options before the name of the command are for all commands. -/
def Invocation.ofWords? (words : List String) : Option Invocation := do
  let read ← OptionSpec.readWords [CommandOption.verbose.spec] false none {} words
  match read.others with
  | [] => none
  | name :: rest =>
    let name ← CommandName.ofString? name
    return ⟨read.isSet .verbose, name, rest⟩

/-- A number without the zeros and underscores before it. If nothing else stands before a point
or the end, the last of them stays. -/
def dropLeadingZeros (cs : List Char) : List Char :=
  match cs with
  | '0' :: _ =>
    let zeros := cs.takeWhile fun c => c == '0' || c == '_'
    let rest := cs.drop zeros.length
    if rest.isEmpty || rest.head? == some '.' then zeros.drop (zeros.length - 1) ++ rest else rest
  | _ => cs

/-- A number without its decimal places, if all of them are zeros. -/
def dropZeroFraction (cs : List Char) : List Char :=
  match cs.dropWhile (· ≠ '.') with
  | '.' :: places =>
    if !places.isEmpty && places.all (· == '0') then cs.takeWhile (· ≠ '.') else cs
  | _ => cs

/-- A positive whole number in digits of ASCII, perhaps with a sign, with single underscores among
its digits, and with zeros for decimal places. -/
def positive? (value : String) : Option Nat :=
  let cs := trimNumeral value.toList
  let unsigned := match cs with
    | '+' :: rest => rest
    | _ => cs
  let groups := (String.ofList (dropZeroFraction (dropLeadingZeros unsigned))).splitOn "_"
  let numeral := groups.flatMap String.toList
  let digits := numeral.filterMap decimalValue?
  if groups.contains "" || !numeral.all Char.isDigit || maxDigits < digits.length then none
  else
    let number := valueOfDigits digits
    if number = 0 then none else some number

namespace Command

/-- The path of a file that can be read. -/
def filePath? (disk : Disk) (word : String) : Option Path :=
  let path := Path.ofString word
  match path.isWhole, disk.read path with
  | true, .ok _ => some path
  | _, _ => none

/-- An option that may be missing, but has to make sense if it is there. -/
def optional {α : Type} (read : String → Option α) : Option String → Option (Option α)
  | none => some none
  | some word => (read word).map some

def sources? (disk : Disk) (read : OptionWords CommandOption) : Option SubstitutionSources := do
  let file ← optional (filePath? disk) (read.value? .values)
  return ⟨file, read.values .assignment⟩

/-- The options and the other words after the name of a command. -/
def readWords (name : CommandName) (words : List String) : Option (OptionWords CommandOption) :=
  OptionSpec.readWords (name.options.map CommandOption.spec) true none {} words

/-- The words after the name of a command that name files. -/
def fileWords (name : CommandName) (words : List String) : List String :=
  match readWords name words with
  | none => []
  | some read => read.others ++ (read.value? .values).toList

/-- The command that the words after its name make up. Its files have to be there. -/
def ofWords? (disk : Disk) (name : CommandName) (words : List String) : Option Command := do
  let read ← readWords name words
  match name, read.others with
  | .kinds, [] => return .kinds
  | .version, [] => return .version
  | .check, [word] => return .check (← filePath? disk word)
  | .tree, [word] => return .tree (← filePath? disk word)
  | .format, [word] => return .format (← filePath? disk word) (read.isSet .write)
  | .preview, [word] => return .preview (← filePath? disk word) (← sources? disk read)
  | .render, [word] =>
    let template ← filePath? disk word
    let sources ← sources? disk read
    let width ← optional positive? (read.value? .width)
    let height ← optional positive? (read.value? .height)
    return .render template sources width height
  | _, _ => none

end Command

end TuiTemplate
