import TuiTemplate.Text.Blank
import TuiTemplate.Text.Colour
import TuiTemplate.Text.Lowercase
set_option autoImplicit false

namespace TuiTemplate.Text

/-- The features of a style that are on or off, in the order in which they are listed. -/
def styleFeatures : List String :=
  ["bold", "dim", "italic", "underline", "blink", "blink2", "reverse", "conceal", "strike",
   "underline2", "frame", "encircle", "overline"]

/-- Short names of features. -/
def featureAliases : List (String × String) :=
  [("d", "dim"), ("b", "bold"), ("i", "italic"), ("u", "underline"), ("r", "reverse"),
   ("c", "conceal"), ("s", "strike"), ("uu", "underline2"), ("o", "overline")]

def feature? (word : String) : Option String :=
  if styleFeatures.contains word then some word else featureAliases.lookup word

/-- How a text looks, as far as words say. -/
structure Style where
  features : List (String × Bool) := []
  colour : Option String := none
  background : Option String := none
  link : Option String := none
deriving DecidableEq, Repr

/-- Why words make up no style: one of them is not known, or a colour holds a number that cannot be
read. -/
inductive StyleError where
  | unknown
  | numeral (error : NumeralError)
deriving DecidableEq, Repr

namespace Style

/-- A colour in small letters. -/
def readColour (word : String) : Except StyleError String := do
  let name := lower word
  match isColour name with
  | .ok true => return name
  | .ok false => throw .unknown
  | .error e => throw (.numeral e)

def setFeature (s : Style) (name : String) (on : Bool) : Style :=
  { s with features := (name, on) :: s.features.filter fun entry => entry.1 ≠ name }

/-- Takes words one after the other, of which a later one wins. -/
def readWords (s : Style) : List String → Except StyleError Style
  | [] => .ok s
  | first :: rest =>
    match lower first, rest with
    | "on", word :: rest => do
      readWords { s with background := some (← readColour word) } rest
    | "not", word :: rest =>
      match feature? word with
      | some name => readWords (s.setFeature name false) rest
      | none => .error .unknown
    | "link", word :: rest => readWords { s with link := some word } rest
    | word, rest =>
      match feature? word with
      | some name => readWords (s.setFeature name true) rest
      | none => do readWords { s with colour := some (← readColour word) } rest

/-- The words of a text. -/
def wordsOf (s : String) : List String :=
  ((s.toList.splitBy fun a b => isBlank a == isBlank b).filter fun word =>
    !word.any isBlank).map String.ofList

/-- The style that a text states. The word `none` alone states the plain one. -/
def ofText (s : String) : Except StyleError Style :=
  if trim s == "none" then .ok {} else readWords {} (wordsOf s)

/-- The words of a style in their usual order. -/
def text (s : Style) : String :=
  let features := styleFeatures.filterMap fun name =>
    (s.features.lookup name).map fun on => if on then name else "not " ++ name
  let words := features ++ s.colour.toList ++
    (s.background.map fun name => "on " ++ name).toList ++
    (s.link.map fun target => "link " ++ target).toList
  if words.isEmpty then "none" else " ".intercalate words

/-- One name for all texts that state the same style. A text that states none is its own name, up to
case. -/
def nameOf (s : String) : Except NumeralError String :=
  match ofText s with
  | .ok style => .ok style.text
  | .error .unknown => .ok (lower (trim s))
  | .error (.numeral e) => .error e

end Style

end TuiTemplate.Text
