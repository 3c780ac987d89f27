import TuiTemplate.Failure
import TuiTemplate.Files.Disk
import TuiTemplate.Placeholder
import TuiTemplate.Yaml.Loader
set_option autoImplicit false

namespace TuiTemplate

open Text

/-- Why a file gave no substitutions: a failure is reported, among them that it is malformed, its
path cannot be looked up, its bytes are no text, or a scalar in it has no value. -/
inductive SubstitutionError where
  | failure (f : Failure)
  | malformed (f : Failure)
  | brokenPath
  | undecodable (error : Utf8Error)
  | noValue (error : Yaml.ScalarError)

def configurationAt (message : String) (path : Path) (key : Option String) : Failure :=
  { kind := .configuration message
    context := ("path", .text path.text) :: (key.map fun key => ("key", Detail.text key)).toList }

/-- The substitution that an entry of a mapping states. A collection has no text to put in. -/
def substitutionOf (path : Path) (key : Yaml.Scalar) (item : Yaml.Item) :
    Except SubstitutionError (String × String) := do
  let named : Except SubstitutionError String := key.text?.mapError .noValue
  match item with
  | .collection =>
    .error (.failure (configurationAt "Substitution values must be scalars" path (← named)))
  | .scalar .null => return (← named, "")
  | .scalar value => do
    let text ← value.text?.mapError .noValue
    return (← named, text)
  | .set members => do
    let text ← (Yaml.setText? members).mapError .noValue
    return (← named, text)

/-- The substitutions that a document states. One without content states none. -/
def substitutionsOf (path : Path) : Yaml.Content → Except SubstitutionError Substitutions
  | .nothing => .ok .empty
  | .mapping entries =>
    entries.foldlM
      (fun subs entry => do
        let (key, text) ← substitutionOf path entry.1 entry.2
        return subs.insert key text) .empty
  | .scalar _ | .collection =>
    .error (.failure (configurationAt "Substitutions file must contain a mapping" path none))

/-- Why no document was loaded from the file at a path. -/
def loadFailure (path : Path) : Yaml.LoadError → SubstitutionError
  | .document .malformed =>
    .malformed (configurationAt "Invalid YAML in substitutions file: " path none)
  | .document (.noValue e) => .noValue e
  | .undecodable e => .undecodable e

/-- The substitutions that a file holds, as far as documents are read by the loader. -/
def readSubstitutions (loader : Yaml.Loader) (disk : Disk) (path : Path) :
    Except SubstitutionError Substitutions :=
  if !path.isWhole then .error .brokenPath
  else
    match disk.read path with
    | .error .notFound => .error (.failure (.file "Substitutions file not found" path.text))
    | .error e =>
      .error (.failure (.file ("Could not read substitutions file: " ++ e.message path) path.text))
    | .ok bytes => do
      let content ← (loader.loadFile (.ofBytes bytes)).mapError (loadFailure path)
      substitutionsOf path content

end TuiTemplate
