import Mathlib.Data.List.Infix
import TuiTemplate.Proofs.Files.TextFile
import TuiTemplate.Yaml.Loader

set_option autoImplicit false

namespace TuiTemplate.Yaml.Loader

variable (loader : Loader)

/-- Whether a loader gives up on a file by what arrives of it. -/
def GivesUp (file : TextFile) (e : ReadError) : Prop :=
  ∃ start, file.Arrives start ∧ loader.wrong? start = some e

variable {file : TextFile} {broken : Text.Utf8Error}

end TuiTemplate.Yaml.Loader
