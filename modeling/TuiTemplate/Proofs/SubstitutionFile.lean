import Mathlib.Data.List.Forall2
import TuiTemplate.CommandLine.Session
import TuiTemplate.Proofs.Yaml.Loader

set_option autoImplicit false

namespace TuiTemplate

open Text

/-- The text that an item has where it is no collection, if that can be written out. -/
def Yaml.Item.text? : Item → Option (Except ScalarError String)
  | .collection => none
  | .scalar .null => some (.ok "")
  | .scalar value => some value.text?
  | .set members => some (setText? members)

/-- Whether an entry states a substitution. -/
def Stated (entry : Yaml.Scalar × Yaml.Item) (pair : String × String) : Prop :=
  entry.1.text? = .ok pair.1 ∧ entry.2.text? = some (.ok pair.2)

/-- Whether the key of an entry or what stands under it cannot be written out. -/
def Unwritable (entry : Yaml.Scalar × Yaml.Item) : Prop :=
  (∃ e, entry.1.text? = .error e) ∨ ∃ e, entry.2.text? = some (.error e)

namespace SubstitutionError

end SubstitutionError

section Entries

variable (path : Path) {entry : Yaml.Scalar × Yaml.Item} {pair : String × String}

end Entries

section Document

variable (loader : Yaml.Loader)

/-- Whether the first entry of a text that states no substitution has a property. -/
def FirstFails (P : Yaml.Scalar × Yaml.Item → Prop) (text : List Char) : Prop :=
  ∃ front entry rest pairs, loader.load text = .ok (.mapping (front ++ entry :: rest)) ∧
    List.Forall₂ Stated front pairs ∧ P entry

/-- Whether the values of a text cannot be made, or one of them cannot be written out. -/
def LacksValue (text : List Char) : Prop :=
  (∃ e, loader.load text = .error (.noValue e)) ∨ FirstFails loader Unwritable text

end Document

/-- Whether a file holds a text, but for the breaks of its lines. -/
def HoldsText (disk : Disk) (path : Path) (text : List Char) : Prop :=
  path.isWhole = true ∧ ∃ source : String, disk.read path = .ok source.toUTF8.data.toList ∧
    text = unifyNewlineChars source.toList

/-- Whether a file can be read, but its bytes are those of no text, as shows while it is read. -/
def HoldsNoText (disk : Disk) (path : Path) (file : TextFile) : Prop :=
  path.isWhole = true ∧ ∃ bytes, disk.read path = .ok bytes ∧ file = .ofBytes bytes ∧
    ∀ source : String, source.toUTF8.data.toList ≠ bytes

section File

variable {loader : Yaml.Loader} {disk : Disk} {path : Path} {text : List Char} {file : TextFile}

end File

section Outcome

variable (loader : Yaml.Loader) (disk : Disk) (path : Path)

/-- Why neither a file nor a configuration is reported where there are no substitutions. -/
def BreaksOff : Prop :=
  path.isWhole = false ∨
    (∃ file, HoldsNoText disk path file ∧ ¬ loader.GivesUp file .malformed) ∨
      ∃ text, HoldsText disk path text ∧ LacksValue loader text

variable {loader disk path}

end Outcome

end TuiTemplate
