import TuiTemplate.Text.Blank
import TuiTemplate.Text.Tabs
set_option autoImplicit false

namespace TuiTemplate.Text

/-- The words of a line, each with the blanks after it. Blanks before the first word belong to
it. -/
def wordsWithBlanks (cs : List Char) : List (List Char) :=
  match cs.splitBy fun a b => isBlank a == isBlank b with
  | first :: rest =>
    if first.all isBlank then
      match rest with
      | word :: rest => withBlanks ((first ++ word) :: rest)
      | [] => [first]
    else withBlanks (first :: rest)
  | [] => []
where
  withBlanks : List (List Char) → List (List Char)
    | word :: blanks :: rest => (word ++ blanks) :: withBlanks rest
    | groups => groups

def charsWidth (cs : List Char) : Nat := textWidth (String.ofList cs)

/-- Puts words into lines of a width. A word that does not fit into the rest of a line, not
counting the blanks after it, starts the next line. `taken` is the width of the line so far. -/
def fillLines (width taken : Nat) (line : List Char) : List (List Char) → List (List Char)
  | [] => [line]
  | word :: rest =>
    if taken + charsWidth (dropTrailing isBlank word) ≤ width || line.isEmpty then
      fillLines width (taken + charsWidth word) (line ++ word) rest
    else line :: fillLines width (charsWidth word) word rest

/-- A line without those blanks at its end that stand past a width. -/
def dropExcessBlanks (width : Nat) (cs : List Char) : List Char :=
  cs.take (max width (dropTrailing isBlank cs).length)

/-- As many characters as a width has room for. A cell that is left is blank. -/
def crop (width : Nat) (cs : List Char) : List Char :=
  match (List.range (cs.length + 1)).reverse.find? fun n => charsWidth (cs.take n) ≤ width with
  | some n => cs.take n ++ List.replicate (width - charsWidth (cs.take n)) ' '
  | none => []

/-- A line that is too wide ends in an ellipsis. -/
def shorten (width : Nat) (cs : List Char) : List Char :=
  if charsWidth cs ≤ width then cs else crop (width - 1) cs ++ ['…']

/-- A line fitted into a width. -/
def fitLine (width : Nat) (cs : List Char) : String :=
  String.ofList (shorten width (dropExcessBlanks width cs))

/-- A line with its tabs expanded, in as many lines of a width as its words need. -/
def wrapLine (width : Nat) (line : String) : List String :=
  (fillLines width 0 [] (wordsWithBlanks (expandTabs line).toList)).map (fitLine width)

end TuiTemplate.Text
