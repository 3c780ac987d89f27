import TuiTemplate.Text.Blank
import TuiTemplate.Text.Lines
set_option autoImplicit false

namespace TuiTemplate

open Text

/-- Spaces per nesting level. -/
def indentStep : Nat := 4

/-- A line of a template that counts: its text without blanks around it, the number of spaces
it starts with, its number in the source from 1 on, and the line as written. -/
structure Line where
  text : String
  indent : Nat
  number : Nat
  raw : String
deriving DecidableEq, Repr

/-- Only spaces indent. A tab is a character like any other. -/
def indentationOf (raw : String) : Nat := (raw.toList.takeWhile (· = ' ')).length

/-- Empty lines and comments do not count. -/
def isIgnored (trimmed : String) : Bool :=
  match trimmed.toList with
  | [] => true
  | '/' :: '/' :: _ => true
  | _ => false

/-- A declaration ends with a colon. -/
def isDeclaration (text : String) : Bool := text.toList.getLast? == some ':'

/-- An attribute has a colon before its end. -/
def isAttribute (text : String) : Bool := text.toList.contains ':' && !isDeclaration text

/-- The kind that a declaration names: all but the last character, without blanks. -/
def declaredKind (text : String) : String := String.ofList (trimChars text.toList.dropLast)

/-- Key and value of an attribute: what stands before and after the first colon, without
blanks. -/
def attributeParts (text : String) : String × String :=
  let cs := text.toList
  (String.ofList (trimChars (cs.takeWhile (· ≠ ':'))),
    String.ofList (trimChars ((cs.dropWhile (· ≠ ':')).drop 1)))

namespace Line

def ofRaw? (raw : String) (number : Nat) : Option Line :=
  let text := trim raw
  if isIgnored text then none else some ⟨text, indentationOf raw, number, raw⟩

/-- The lines that count among the given ones, which are numbered from `first` on. -/
def significant (first : Nat) : List String → List Line
  | [] => []
  | raw :: rest => (ofRaw? raw first).toList ++ significant (first + 1) rest

end Line

/-- The lines of a template that count. -/
def scan (source : String) : List Line := Line.significant 1 (splitLines source)

end TuiTemplate
