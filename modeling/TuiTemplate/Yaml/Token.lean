import TuiTemplate.Text.Digit
import TuiTemplate.Yaml.ScalarText
set_option autoImplicit false

namespace TuiTemplate.Yaml

open Cursor

/-- The signs and texts of a document. Indentation shows as tokens of its own. What reading stops
at, because it has no value or is not known, ends the tokens. -/
inductive Token where
  | version (major : Nat)
  | tagHandle (handle target : String)
  | otherDirective
  | documentStart
  | documentEnd
  | blockSequenceStart
  | blockMappingStart
  | blockEnd
  | flowSequenceStart
  | flowSequenceEnd
  | flowMappingStart
  | flowMappingEnd
  | blockEntry
  | flowEntry
  | key
  | value
  | alias (name : String)
  | anchor (name : String)
  | tag (handle : Option String) (suffix : String)
  | scalar (text : String) (plain : Bool)
  | unreadable (stop : Stop)
deriving DecidableEq, Repr

/-- A place that may turn out to hold a key, once a colon follows. -/
structure KeyPlace where
  token : Nat
  required : Bool
  index : Nat
  line : Nat
  column : Nat
deriving Repr

/-- The tokens found so far, and what is known at the place reached: the brackets that are open,
the indentations of the open blocks, and where keys may begin. -/
structure Lexer where
  cursor : Cursor
  tokens : Array Token := #[]
  flow : Nat := 0
  indent : Int := -1
  outer : List Int := []
  keyAllowed : Bool := true
  keyPlaces : List (Nat × KeyPlace) := []

namespace Lexer

def push (s : Lexer) (t : Token) : Lexer := { s with tokens := s.tokens.push t }

def passing (s : Lexer) (n : Nat) : Lexer := { s with cursor := s.cursor.skip n }

def allowing (s : Lexer) (allowed : Bool) : Lexer := { s with keyAllowed := allowed }

/-- Closes the blocks that are indented by more than `column`. -/
def closeBlocks (column : Int) : Nat → Lexer → Lexer
  | 0, s => s
  | bound + 1, s =>
    if s.flow = 0 && column < s.indent then
      closeBlocks column bound
        { s.push .blockEnd with indent := s.outer.headD (-1), outer := s.outer.drop 1 }
    else s

def unwind (s : Lexer) (column : Int) : Lexer := closeBlocks column (s.outer.length + 1) s

/-- Opens a block at a column that is indented by more than the blocks around it. -/
def openBlock (s : Lexer) (column : Int) : Bool × Lexer :=
  if s.indent < column then (true, { s with indent := column, outer := s.indent :: s.outer })
  else (false, s)

def opening (s : Lexer) (t : Token) : Lexer :=
  match s.openBlock s.cursor.column with
  | (true, s) => s.push t
  | (false, s) => s

def withoutKeyPlace (s : Lexer) : Lexer :=
  { s with keyPlaces := s.keyPlaces.filter fun entry => entry.1 ≠ s.flow }

/-- Gives up the key that may have begun within the open brackets. It is an error if there had
to be one. -/
def dropKeyPlace (s : Lexer) : Option Lexer :=
  match s.keyPlaces.lookup s.flow with
  | some place => if place.required then none else some s.withoutKeyPlace
  | none => some s

/-- Notes that a key may begin here. -/
def noteKeyPlace (s : Lexer) : Option Lexer :=
  if s.keyAllowed then do
    let required := s.flow = 0 && s.indent == (s.cursor.column : Int)
    let s ← s.dropKeyPlace
    let place : KeyPlace :=
      ⟨s.tokens.size, required, s.cursor.index, s.cursor.line, s.cursor.column⟩
    return { s with keyPlaces := (s.flow, place) :: s.keyPlaces }
  else some s

/-- A key is on one line and not longer than this. -/
def maxKeyLength : Nat := 1024

/-- Gives up the keys that a colon can no longer follow. -/
def dropStaleKeys (s : Lexer) : Option Lexer :=
  let stale (place : KeyPlace) : Bool :=
    place.line ≠ s.cursor.line || maxKeyLength < s.cursor.index - place.index
  if s.keyPlaces.any fun entry => stale entry.2 && entry.2.required then none
  else some { s with keyPlaces := s.keyPlaces.filter fun entry => !stale entry.2 }

/-- Passes blanks, comments and line ends. On a new line outside brackets a key may begin. -/
def skipBlank : Nat → Lexer → Lexer
  | 0, s => s
  | bound + 1, s =>
    let c := s.cursor.skipWhile (· == ' ')
    let c := if c.peek == some '#' then c.skipWhile fun x => !isBreak x else c
    match c.lineBreak? with
    | some (_, c) =>
      skipBlank bound { s with cursor := c, keyAllowed := s.keyAllowed || s.flow = 0 }
    | none => { s with cursor := c }

def isNameChar (c : Char) : Bool := c.isAlphanum || c == '-' || c == '_'

def isUriChar (c : Char) : Bool :=
  c.isAlphanum || "-;/?:@&=+$,_.!~*'()[]".toList.contains c

/-- The bytes of percent escapes, which have to make up whole characters. -/
def uriBytes : Nat → Cursor → Option (List UInt8 × Cursor)
  | 0, c => some ([], c)
  | bound + 1, c =>
    if c.peek == some '%' then do
      let digits := c.forward.rest.take 2
      if digits.length = 2 && digits.all isHexDigit then
        let (more, c) ← uriBytes bound (c.skip 3)
        return ((hexNumber digits).toUInt8 :: more, c)
      else none
    else some ([], c)

def uriText : Nat → Cursor → Option (List Char × Cursor)
  | 0, c => some ([], c)
  | bound + 1, c =>
    match c.peek with
    | some '%' => do
      let (bytes, c) ← uriBytes bound c
      let text ← String.fromUTF8? ⟨bytes.toArray⟩
      let (more, c) ← uriText bound c
      return (text.toList ++ more, c)
    | some x =>
      if isUriChar x then do
        let (more, c) ← uriText bound c.forward
        return (x :: more, c)
      else some ([], c)
    | none => some ([], c)

/-- The name of a tag, which may not be empty. -/
def uri (c : Cursor) : Option (String × Cursor) := do
  let (text, c) ← uriText (c.rest.length + 1) c
  if text.isEmpty then none else return (String.ofList text, c)

/-- A tag handle: an exclamation mark, or a name between two of them. -/
def handle (c : Cursor) : Option (String × Cursor) := do
  if c.peek ≠ some '!' then none
  else
    let (name, after) := c.forward.takeWhile isNameChar
    if after.peek == some '!' then
      return (String.ofList ('!' :: name ++ ['!']), after.forward)
    else if c.peekAt 1 == some ' ' then return ("!", c.forward)
    else none

/-- A number of a version, which has digits, but not too many of them. -/
def versionNumber (c : Cursor) : Except Stop (Nat × Cursor) :=
  let (digits, c) := c.takeWhile Char.isDigit
  if digits.isEmpty then throw .malformed
  else
    match Text.parseNumeral (String.ofList digits) with
    | .ok number => return (number, c)
    | .error e => throw (.refused e.message)

/-- A line that starts with a percent sign. Only version and tag handles mean anything. -/
def directive (c : Cursor) : Except Stop (Token × Cursor) := do
  let (name, c) := c.forward.takeWhile isNameChar
  if name.isEmpty || !endsLineOrSpace c.peek then throw .malformed
  else
    let spaced := c.skipWhile (· == ' ')
    let (token, c) ←
      if String.ofList name == "YAML" then do
        let (major, c) ← versionNumber spaced
        if c.peek ≠ some '.' then throw .malformed
        else
          let (_, after) ← versionNumber c.forward
          if endsLineOrSpace after.peek then pure (Token.version major, after)
          else throw .malformed
      else if String.ofList name == "TAG" then do
        let (handle, c) ← handle spaced
        if c.peek ≠ some ' ' then throw .malformed
        else
          let (target, c) ← uri (c.skipWhile (· == ' '))
          if endsLineOrSpace c.peek then pure (Token.tagHandle handle target, c)
          else throw .malformed
      else pure (Token.otherDirective, c.skipWhile fun x => !isBreak x)
    return (token, ← ignoredLine c)

/-- What a name of an anchor or alias may be followed by. -/
def endsName (next : Option Char) : Bool :=
  endsWord next || next.any fun x => "?:,]\x7d%@`".toList.contains x

def name (c : Cursor) : Option (String × Cursor) :=
  let (name, c) := c.takeWhile isNameChar
  if name.isEmpty || !endsName c.peek then none else some (String.ofList name, c)

/-- A tag: a name in angle brackets, a name after a handle, or an exclamation mark alone. -/
def tag (c : Cursor) : Option (Token × Cursor) := do
  let next := c.peekAt 1
  let (token, c) ←
    if next == some '<' then do
      let (suffix, c) ← uri (c.skip 2)
      if c.peek == some '>' then some (Token.tag none suffix, c.forward) else none
    else if endsWord next then some (Token.tag none "!", c.forward)
    else do
      let word := c.forward.rest.takeWhile fun x => !isBreak x && x ≠ ' '
      let (handle, c) ← if word.contains '!' then handle c else some ("!", c.forward)
      let (suffix, c) ← uri c
      some (Token.tag (some handle) suffix, c)
  if endsLineOrSpace c.peek then return (token, c) else none

/-- Whether a plain text may begin here. -/
def startsPlain (s : Lexer) : Bool :=
  match s.cursor.peek with
  | none => false
  | some x =>
    !(endsWord (some x) || "-?:,[]\x7b\x7d#&*!|>'\"%@`".toList.contains x) ||
      (!endsWord (s.cursor.peekAt 1) && (x == '-' || (s.flow = 0 && (x == '?' || x == ':'))))

def flowStart (s : Lexer) (t : Token) : Option Lexer := do
  let s ← s.noteKeyPlace
  return { (s.push t).passing 1 with flow := s.flow + 1, keyAllowed := true }

/-- A closing bracket without an open one is an error. -/
def flowEnd (s : Lexer) (t : Token) : Option Lexer := do
  let s ← s.dropKeyPlace
  if s.flow = 0 then none
  else return { (s.push t).passing 1 with flow := s.flow - 1, keyAllowed := false }

/-- A dash or question mark that opens or continues a block. -/
def blockSign (s : Lexer) (block sign : Token) (allowed : Bool) : Option Lexer := do
  if s.flow = 0 && !s.keyAllowed then none
  else
    let s := if s.flow = 0 then s.opening block else s
    let s ← (s.allowing allowed).dropKeyPlace
    return (s.push sign).passing 1

/-- A colon. If a key may have begun before it, this is where it began. -/
def valueSign (s : Lexer) : Option Lexer :=
  match s.keyPlaces.lookup s.flow with
  | some place =>
    let s := s.withoutKeyPlace
    let before := s.tokens.toList.take place.token
    let after := s.tokens.toList.drop place.token
    let (opened, s) := if s.flow = 0 then s.openBlock place.column else (false, s)
    let signs := if opened then [Token.blockMappingStart, .key] else [.key]
    some (({ s with tokens := (before ++ signs ++ after).toArray, keyAllowed := false }.push
      .value).passing 1)
  | none => s.blockSign .blockMappingStart .value (s.flow = 0)

def documentSign (s : Lexer) (t : Token) : Option Lexer := do
  let s ← (s.unwind (-1)).dropKeyPlace
  return ((s.allowing false).push t).passing 3

/-- Reads one token with what it implies. At the end of the text there is none, and the open
blocks end. -/
def next (s : Lexer) : Except Stop (Bool × Lexer) := do
  let s ← (skipBlank (s.cursor.rest.length + 1) s).dropStaleKeys
  let s := s.unwind s.cursor.column
  let c := s.cursor
  match c.peek with
  | none =>
    let s ← (s.unwind (-1)).dropKeyPlace
    return (false, s)
  | some x =>
    let more (s : Option Lexer) : Except Stop (Bool × Lexer) :=
      (required s).map fun s => (true, s)
    let noted (s : Lexer) : Option Lexer := s.noteKeyPlace.map fun s => s.allowing false
    if x == '%' && c.column = 0 then
      let s ← (s.unwind (-1)).dropKeyPlace
      let (t, c) ← directive c
      return (true, { (s.allowing false).push t with cursor := c })
    else if c.column = 0 && c.startsWith ['-', '-', '-'] && endsWord (c.peekAt 3) then
      more (s.documentSign .documentStart)
    else if c.column = 0 && c.startsWith ['.', '.', '.'] && endsWord (c.peekAt 3) then
      more (s.documentSign .documentEnd)
    else if x == '[' then more (s.flowStart .flowSequenceStart)
    else if x == '\x7b' then more (s.flowStart .flowMappingStart)
    else if x == ']' then more (s.flowEnd .flowSequenceEnd)
    else if x == '\x7d' then more (s.flowEnd .flowMappingEnd)
    else if x == ',' then more do
      let s ← (s.allowing true).dropKeyPlace
      return (s.push .flowEntry).passing 1
    else if x == '-' && endsWord (c.peekAt 1) then
      more (s.blockSign .blockSequenceStart .blockEntry true)
    else if x == '?' && (0 < s.flow || endsWord (c.peekAt 1)) then
      more (s.blockSign .blockMappingStart .key (s.flow = 0))
    else if x == ':' && (0 < s.flow || endsWord (c.peekAt 1)) then more s.valueSign
    else if x == '*' then more do
      let s ← noted s
      let (name, c) ← name c.forward
      return { s.push (.alias name) with cursor := c }
    else if x == '&' then more do
      let s ← noted s
      let (name, c) ← name c.forward
      return { s.push (.anchor name) with cursor := c }
    else if x == '!' then more do
      let s ← noted s
      let (t, c) ← tag c
      return { s.push t with cursor := c }
    else if (x == '|' || x == '>') && s.flow = 0 then more do
      let s ← (s.allowing true).dropKeyPlace
      let (text, c) ← blockText (x == '>') s.indent c.forward
      return { s.push (.scalar (String.ofList text) false) with cursor := c }
    else if x == '\'' || x == '"' then
      let s ← noted s
      let (text, c) ← quotedText (x == '"') (c.rest.length + 1) c.forward
      return (true, { s.push (.scalar (String.ofList text) false) with cursor := c })
    else if s.startsPlain then more do
      let s ← noted s
      let (_, text, broken, c) := plainText (0 < s.flow) (s.indent + 1) (c.rest.length + 1) c []
      return { s.push (.scalar (String.ofList text) true) with cursor := c, keyAllowed := broken }
    else throw .malformed

/-- The tokens that nothing that follows can change: those before all places that may turn out to
hold a key. -/
def settled (s : Lexer) : List Token :=
  let places := (s.dropStaleKeys.getD s).keyPlaces.map fun entry => entry.2.token
  s.tokens.toList.take (places.foldl min s.tokens.size)

/-- Reads one token of a text whose further lines are not known. A token at its end may go on, and
so may a text that would be in order if its quote were closed there. -/
def nextSoFar (s : Lexer) : Except Stop (Bool × Lexer) :=
  match (skipBlank (s.cursor.rest.length + 1) s).cursor.peek with
  | none => .error .unread
  | some x =>
    let closed := { s with cursor.rest := s.cursor.rest ++ [x] }
    match s.next with
    | .ok (more, after) => if after.cursor.rest.isEmpty then .error .unread else .ok (more, after)
    | .error .malformed =>
      if (x == '\'' || x == '"') && closed.next.isOk then .error .unread else .error .malformed
    | .error e => .error e

/-- All tokens. If one of them stops the reading, those are kept that are settled by then. -/
def run (whole : Bool) : Nat → Lexer → Except Stop (List Token)
  | 0, _ => .error .malformed
  | bound + 1, s =>
    match if whole then s.next else s.nextSoFar with
    | .error .malformed => .error .malformed
    | .error e => .ok (s.settled ++ [.unreadable e])
    | .ok (false, s) => .ok s.tokens.toList
    | .ok (true, s) => run whole bound s

end Lexer

/-- The characters that a document may hold. -/
def isAllowed (c : Char) : Bool :=
  let n := c.toNat
  n == 9 || n == 10 || n == 13 || (32 ≤ n && n ≤ 126) || n == 0x85 ||
    (0xa0 ≤ n && n ≤ 0xd7ff) || (0xe000 ≤ n && n ≤ 0xfffd) || 0x10000 ≤ n

/-- The tokens of a text, which may be the start of a longer one. A byte order mark at its start is
passed. -/
def tokens? (whole : Bool) (text : List Char) : Except Stop (List Token) :=
  if text.all isAllowed then
    let cursor : Cursor := ⟨text, 0, 0, 0⟩
    let cursor := if cursor.peek == some '\ufeff' then cursor.forward else cursor
    Lexer.run whole (text.length + 2) { cursor := cursor }
  else .error .malformed

end TuiTemplate.Yaml
