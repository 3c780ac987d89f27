import TuiTemplate.Text.Control
import TuiTemplate.Text.Literal
import TuiTemplate.Text.Style
set_option autoImplicit false

namespace TuiTemplate.Text.Markup

/-- What the brackets of a style tag may begin with. -/
def startsTag (c : Char) : Bool := ('a' ≤ c && c ≤ 'z') || c == '#' || c == '/' || c == '@'

/-- The characters before the first closing bracket, with no opening bracket among them, and
what follows it. -/
def untilBracket : List Char → Option (List Char × List Char)
  | [] => none
  | c :: rest =>
    if c = ']' then some ([], rest)
    else if c = '[' then none
    else (untilBracket rest).map fun found => (c :: found.1, found.2)

/-- A tag at the start of a text, without its brackets, and what follows it. -/
def tag? : List Char → Option (List Char × List Char)
  | '[' :: c :: rest =>
    if startsTag c then (untilBracket rest).map fun found => (c :: found.1, found.2) else none
  | _ => none

/-- A stretch of marked-up text: a character that stands for itself, or a tag with the number of
backslashes before it. -/
inductive Piece where
  | char (c : Char)
  | tag (backslashes : Nat) (name : List Char)
deriving DecidableEq, Repr

/-- Cuts a text at its tags. The backslashes right before a tag belong to it. The first argument
bounds the number of pieces. -/
def cut : Nat → List Char → List Piece
  | 0, _ => []
  | _, [] => []
  | bound + 1, c :: rest =>
    let cs := c :: rest
    let backslashes := (cs.takeWhile (· = '\\')).length
    match tag? (cs.drop backslashes) with
    | some (name, after) => .tag backslashes name :: cut bound after
    | none => .char c :: cut bound rest

def pieces (cs : List Char) : List Piece := cut cs.length cs

def escapePiece : Piece → List Char
  | .char c => [c]
  | .tag backslashes name =>
    List.replicate (2 * backslashes + 1) '\\' ++ '[' :: name ++ [']']

/-- Marked-up text that shows `s`: each tag gets a backslash before it, and backslashes that
stand there already are doubled, as is a single one at the end. -/
def escape (s : String) : String :=
  let escaped := (pieces s.toList).flatMap escapePiece
  match escaped.reverse with
  | '\\' :: '\\' :: _ => String.ofList escaped
  | '\\' :: _ => String.ofList (escaped ++ ['\\'])
  | _ => String.ofList escaped

/-- Why markup cannot be shown: a tag is closed that is not open, what a handler gets is no literal,
or a colour holds a number that cannot be read. -/
inductive Error where
  | notOpen
  | noLiteral
  | numeral (error : NumeralError)
deriving DecidableEq, Repr

def Error.message : Error → String
  | .notOpen => "A tag is closed that is not open"
  | .noLiteral => "A handler needs a literal"
  | .numeral error => error.message

/-- What stands between the brackets of a tag: a name, and after an equals sign parameters. -/
structure Tag where
  name : String
  parameters : Option String
deriving DecidableEq, Repr

namespace Tag

def styleName (name : String) : Except Error String := (Style.nameOf name).mapError .numeral

/-- A tag that opens a style, under the one name of that style. -/
def ofText (text : List Char) : Except Error Tag := do
  let name ← styleName (String.ofList (text.takeWhile (· ≠ '=')))
  return ⟨name,
    match text.dropWhile (· ≠ '=') with
    | _ :: parameters => some (String.ofList parameters)
    | [] => none⟩

/-- The style that a tag states with its parameters. -/
def style (t : Tag) : String :=
  match t.parameters with
  | some parameters => t.name ++ " " ++ parameters
  | none => t.name

/-- Whether a character may be part of the name of a handler. All beyond ASCII may. -/
def inHandlerName (c : Char) : Bool :=
  c.isAlphanum || c == '_' || c == '.' || 127 < c.toNat

/-- The part of the parameters of a handler that has to be a literal: what stands in brackets after
its name, or else all of it. A name alone goes without. -/
def handlerLiteral (parameters : String) : Option String :=
  let cs := trimChars parameters.toList
  match cs.dropWhile inHandlerName with
  | [] => none
  | '(' :: rest =>
    if rest.getLast? == some ')' && !rest.contains '\n' then some (String.ofList ('(' :: rest))
    else some (String.ofList cs)
  | _ => some (String.ofList cs)

/-- A tag whose name starts with an at sign states a handler, which is looked at when the tag is
closed. -/
def isSound (t : Tag) : Bool :=
  if t.name.toList.head? == some '@' then
    match t.parameters with
    | some parameters =>
      parameters.isEmpty || (handlerLiteral parameters).all isLiteral
    | none => true
  else true

end Tag

/-- Closes the innermost open tag, or the innermost one of a style. -/
def close (text : List Char) (opened : List Tag) : Except Error (List Tag) := do
  let (closed, left) ←
    if trimChars text = [] then pure (opened.head?, opened.drop 1)
    else
      let name ← Tag.styleName (trim (String.ofList text))
      let matching (t : Tag) : Bool := t.name == name
      pure (opened.find? matching, opened.eraseP matching)
  match closed with
  | none => throw .notOpen
  | some tag => if tag.isSound then return left else throw .noLiteral

/-- A backslash that stands before a bracket in plain text is dropped. -/
def dropBracketEscapes : List Char → List Char
  | [] => []
  | '\\' :: '[' :: rest => '[' :: dropBracketEscapes rest
  | c :: rest => c :: dropBracketEscapes rest

/-- The visible part of pieces, with the plain text since the last tag and the open tags. Pairs
of backslashes before a tag show as one, and an odd one makes the tag show. -/
def visible (opened : List Tag) (plain : List Char) : List Piece → Except Error (List Char)
  | [] => .ok (dropBracketEscapes plain)
  | .char c :: rest => visible opened (plain ++ [c]) rest
  | .tag backslashes text :: rest => do
    let shown := dropBracketEscapes plain ++ List.replicate (backslashes / 2) '\\'
    if backslashes % 2 = 1 then
      return shown ++ '[' :: text ++ ']' :: (← visible opened [] rest)
    else
      match text with
      | '/' :: closed =>
        return shown ++ (← visible (← close (closed.takeWhile (· ≠ '=')) opened) [] rest)
      | _ => return shown ++ (← visible ((← Tag.ofText text) :: opened) [] rest)

/-- Reads the styles of all tags of a text. Only a number that cannot be read is an error. -/
def readStyles : List Piece → Except Error Unit
  | [] => .ok ()
  | .char _ :: rest => readStyles rest
  | .tag backslashes text :: rest =>
    if backslashes % 2 = 1 || text.head? == some '/' then readStyles rest
    else do
      match Style.ofText (← Tag.ofText text).style with
      | .error (.numeral e) => throw (.numeral e)
      | .error .unknown | .ok _ => readStyles rest

/-- What a terminal shows of marked-up text, styles aside. -/
def shown (s : String) : Except Error String := do
  let cs := s.toList
  if cs.contains '[' then
    let shown ← visible [] [] (pieces cs)
    readStyles (pieces cs)
    return removeControls (String.ofList shown)
  else return removeControls s

/-- A text in a style. -/
def styled (style text : String) : String :=
  "[" ++ style ++ "]" ++ text ++ "[/" ++ style ++ "]"

end TuiTemplate.Text.Markup
