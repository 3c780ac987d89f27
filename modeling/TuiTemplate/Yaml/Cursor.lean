set_option autoImplicit false

namespace TuiTemplate.Yaml

/-- The characters that end a line of a document. -/
def isBreak (c : Char) : Bool :=
  c == '\n' || c == '\r' || c == '\u0085' || c == '\u2028' || c == '\u2029'

/-- A place in a document: the characters from there on, how many were passed, and the line and
column, both from zero on. -/
structure Cursor where
  rest : List Char
  index : Nat := 0
  line : Nat := 0
  column : Nat := 0
deriving Repr

namespace Cursor

def peek (c : Cursor) : Option Char := c.rest.head?

def peekAt (c : Cursor) (n : Nat) : Option Char := c.rest[n]?

/-- A byte order mark takes no column. -/
def forward (c : Cursor) : Cursor :=
  match c.rest with
  | [] => c
  | x :: rest =>
    if isBreak x && !(x == '\r' && rest.head? == some '\n') then
      ⟨rest, c.index + 1, c.line + 1, 0⟩
    else ⟨rest, c.index + 1, c.line, if x == '\ufeff' then c.column else c.column + 1⟩

def skip : Nat → Cursor → Cursor
  | 0, c => c
  | n + 1, c => skip n c.forward

/-- The characters up to the first without the property. -/
def takeWhile (c : Cursor) (p : Char → Bool) : List Char × Cursor :=
  let taken := c.rest.takeWhile p
  (taken, c.skip taken.length)

def skipWhile (c : Cursor) (p : Char → Bool) : Cursor := (c.takeWhile p).2

/-- Whether a character, if there is one, is a space or ends a line. -/
def endsLineOrSpace (next : Option Char) : Bool := next.all fun x => isBreak x || x == ' '

def endsWord (next : Option Char) : Bool :=
  next.all fun x => isBreak x || x == ' ' || x == '\t'

/-- Passes the end of a line. All but the two separators of Unicode count as a line feed. -/
def lineBreak? (c : Cursor) : Option (Char × Cursor) :=
  match c.rest with
  | '\r' :: '\n' :: _ => some ('\n', c.skip 2)
  | x :: _ =>
    if isBreak x then some (if x == '\u2028' || x == '\u2029' then x else '\n', c.forward)
    else none
  | [] => none

def startsWith (c : Cursor) (s : List Char) : Bool := s.isPrefixOf c.rest

/-- Whether a marker between documents stands here, as far as the text tells. -/
def atMarker (c : Cursor) : Bool :=
  (c.startsWith ['-', '-', '-'] || c.startsWith ['.', '.', '.']) && endsWord (c.peekAt 3)

end Cursor

end TuiTemplate.Yaml
