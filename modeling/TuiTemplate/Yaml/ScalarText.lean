import TuiTemplate.Yaml.Cursor
import TuiTemplate.Yaml.Error
set_option autoImplicit false

namespace TuiTemplate.Yaml

open Cursor

def isHexDigit (c : Char) : Bool :=
  c.isDigit || ('a' ≤ c && c ≤ 'f') || ('A' ≤ c && c ≤ 'F')

def hexValue (c : Char) : Nat :=
  if c.isDigit then c.toNat - '0'.toNat
  else if 'a' ≤ c then c.toNat - 'a'.toNat + 10
  else c.toNat - 'A'.toNat + 10

def hexNumber (cs : List Char) : Nat := cs.foldl (fun n c => 16 * n + hexValue c) 0

/-- The empty lines that follow, after any blanks. They may not hide a marker between
documents. -/
def foldedBreaks : Nat → Cursor → Option (List Char × Cursor)
  | 0, c => some ([], c)
  | bound + 1, c =>
    if c.atMarker then none
    else
      let c := c.skipWhile fun x => x == ' ' || x == '\t'
      match c.lineBreak? with
      | none => some ([], c)
      | some (x, c) => do
        let (more, c) ← foldedBreaks bound c
        return (x :: more, c)

/-- What one line break and the empty lines after it stand for: a space, or the empty lines. -/
def folded (x : Char) (breaks : List Char) : List Char :=
  if x ≠ '\n' then x :: breaks else if breaks.isEmpty then [' '] else breaks

/-- Blanks within quotes. They are kept on a line and folded at its end. -/
def quotedSpaces (c : Cursor) : Option (List Char × Cursor) :=
  let (blanks, c) := c.takeWhile fun x => x == ' ' || x == '\t'
  match c.peek, c.lineBreak? with
  | none, _ => none
  | some _, none => some (blanks, c)
  | some _, some (x, c) => do
    let (breaks, c) ← foldedBreaks (c.rest.length + 1) c
    return (folded x breaks, c)

/-- The characters that a letter after a backslash stands for. -/
def escapes : List (Char × Char) :=
  [('0', '\x00'), ('a', '\x07'), ('b', '\x08'), ('t', '\t'), ('\t', '\t'), ('n', '\n'),
   ('v', '\x0b'), ('f', '\x0c'), ('r', '\r'), ('e', '\x1b'), (' ', ' '), ('"', '"'),
   ('\\', '\\'), ('/', '/'), ('N', '\u0085'), ('_', '\u00a0'), ('L', '\u2028'),
   ('P', '\u2029')]

def escapeWidth (c : Char) : Option Nat :=
  if c = 'x' then some 2 else if c = 'u' then some 4 else if c = 'U' then some 8 else none

/-- The character with a number. Numbers of 32 bits, taken with a sign, are looked at no further
than their size. -/
def characterOf (n : Nat) : Except Stop Char :=
  if n < 0x110000 then .ok (Char.ofNat n)
  else if n < 0x80000000 then .error (.refused "chr() arg not in range(0x110000)")
  else .error (.noValue .beyondBounds)

/-- What stands after a backslash between double quotes. -/
def escapeSequence (c : Cursor) : Except Stop (List Char × Cursor) := do
  let x ← c.peek
  match escapes.lookup x, escapeWidth x with
  | some meaning, _ => return ([meaning], c.forward)
  | none, some width =>
    let digits := c.forward.rest.take width
    if digits.length = width && digits.all isHexDigit then
      return ([← characterOf (hexNumber digits)], c.skip (width + 1))
    else throw .malformed
  | none, none =>
    let (_, c) ← c.lineBreak?
    foldedBreaks (c.rest.length + 1) c

/-- The text up to the closing quote, which is passed. -/
def quotedText (double : Bool) : Nat → Cursor → Except Stop (List Char × Cursor)
  | 0, _ => throw .malformed
  | bound + 1, c => do
    let quote := if double then '"' else '\''
    let x ← c.peek
    if !double && x == '\'' && c.peekAt 1 == some '\'' then
      let (more, c) ← quotedText double bound (c.skip 2)
      return ('\'' :: more, c)
    else if x == quote then return ([], c.forward)
    else if double && x == '\\' then
      let (meant, c) ← escapeSequence c.forward
      let (more, c) ← quotedText double bound c
      return (meant ++ more, c)
    else if x == ' ' || x == '\t' || isBreak x then
      let (blanks, c) ← quotedSpaces c
      let (more, c) ← quotedText double bound c
      return (blanks ++ more, c)
    else
      let (more, c) ← quotedText double bound c.forward
      return (x :: more, c)

/-- The empty lines within a plain text, after its line break. Nothing tells that a marker
between documents follows. -/
def plainBreaks : Nat → Cursor → Option (List Char) × Cursor
  | 0, c => (some [], c)
  | bound + 1, c =>
    match c.peek with
    | some ' ' => plainBreaks bound c.forward
    | _ =>
      match c.lineBreak? with
      | none => (some [], c)
      | some (x, c) =>
        if c.atMarker then (none, c)
        else
          let (more, c) := plainBreaks bound c
          (more.map (x :: ·), c)

/-- The blanks after a word of a plain text, and whether they end a line. -/
def plainSpaces (c : Cursor) : List Char × Bool × Cursor :=
  let (blanks, c) := c.takeWhile (· == ' ')
  match c.lineBreak? with
  | none => (blanks, false, c)
  | some (x, c) =>
    if c.atMarker then ([], true, c)
    else
      match plainBreaks (c.rest.length + 1) c with
      | (none, c) => ([], true, c)
      | (some breaks, c) => (folded x breaks, true, c)

def isFlowSign (c : Char) : Bool := c == ',' || c == '[' || c == ']' || c == '\x7b' || c == '\x7d'

/-- Whether a word of a plain text ends before these characters. -/
def endsPlainWord (flow : Bool) : List Char → Bool
  | [] => true
  | x :: rest =>
    isBreak x || x == ' ' || x == '\t' ||
      (x == ':' && (endsWord rest.head? || (flow && rest.head?.any isFlowSign))) ||
      (flow && (isFlowSign x || x == '?'))

def plainWord (flow : Bool) : List Char → List Char
  | [] => []
  | x :: rest => if endsPlainWord flow (x :: rest) then [] else x :: plainWord flow rest

/-- A plain text: its words with the blanks between them. Outside brackets it ends before a line
that is indented less than `indent`. The first result tells whether it has any word, and the
second whether a line ended after the last. -/
def plainText (flow : Bool) (indent : Int) :
    Nat → Cursor → List Char → Bool × List Char × Bool × Cursor
  | 0, c, _ => (false, [], false, c)
  | bound + 1, c, blanks =>
    let word := if c.peek == some '#' then [] else plainWord flow c.rest
    if word.isEmpty then (false, [], false, c)
    else
      let (spaces, broken, after) := plainSpaces (c.skip word.length)
      let here := blanks ++ word
      if spaces.isEmpty || after.peek == some '#' || (!flow && (after.column : Int) < indent) then
        (true, here, broken, after)
      else
        let (more, text, brokenLater, last) := plainText flow indent bound after spaces
        if more then (true, here ++ text, brokenLater, last) else (true, here, broken, last)

/-- What a block text keeps of the line breaks at its end. -/
inductive Chomping where
  | strip
  | clip
  | keep
deriving DecidableEq, Repr

def chomping? : Option Char → Option Chomping
  | some '+' => some .keep
  | some '-' => some .strip
  | _ => none

/-- A digit that states an indentation. Zero is refused. -/
def increment? (next : Option Char) : Option (Option Nat) :=
  match next with
  | some x =>
    if x.isDigit then if x = '0' then none else some (some (x.toNat - '0'.toNat)) else some none
  | none => some none

/-- The signs after the mark of a block text: a chomping and an indentation, in either order. -/
def blockHeader (c : Cursor) : Option (Chomping × Option Nat × Cursor) := do
  match chomping? c.peek with
  | some chomping =>
    match ← increment? c.forward.peek with
    | some n => return (chomping, some n, c.skip 2)
    | none => return (chomping, none, c.forward)
  | none =>
    match ← increment? c.peek with
    | some n =>
      match chomping? c.forward.peek with
      | some chomping => return (chomping, some n, c.skip 2)
      | none => return (.clip, some n, c.forward)
    | none => return (.clip, none, c)

/-- The rest of a line that may hold blanks and a comment only, with its end. -/
def ignoredLine (c : Cursor) : Option Cursor :=
  let c := c.skipWhile (· == ' ')
  let c := if c.peek == some '#' then c.skipWhile fun x => !isBreak x else c
  match c.peek, c.lineBreak? with
  | none, _ => some c
  | some _, some (_, c) => some c
  | some _, none => none

/-- The empty lines before a block text, and the widest indentation among them and the first
line. -/
def blockIndentation : Nat → Cursor → Nat → List Char × Nat × Cursor
  | 0, c, widest => ([], widest, c)
  | bound + 1, c, widest =>
    if c.peek == some ' ' then
      blockIndentation bound c.forward (max widest c.forward.column)
    else
      match c.lineBreak? with
      | none => ([], widest, c)
      | some (x, c) =>
        let (more, widest, c) := blockIndentation bound c widest
        (x :: more, widest, c)

/-- Passes the spaces of an indentation, as far as they go. -/
def skipIndent (indent : Nat) : Nat → Cursor → Cursor
  | 0, c => c
  | bound + 1, c =>
    if c.column < indent && c.peek == some ' ' then skipIndent indent bound c.forward else c

/-- The empty lines within a block text, up to the text of the next line. -/
def blockBreaks (indent : Nat) : Nat → Cursor → List Char × Cursor
  | 0, c => ([], c)
  | bound + 1, c =>
    let c := skipIndent indent c.rest.length c
    match c.lineBreak? with
    | none => ([], c)
    | some (x, c) =>
      let (more, c) := blockBreaks indent bound c
      (x :: more, c)

def isBlankHere (next : Option Char) : Bool := next.any fun x => x == ' ' || x == '\t'

/-- The lines of a block text from here on, after the empty lines `breaks`. The last result is
what stands between the last line and the end: its line break and the empty lines. -/
def blockLines (fold : Bool) (indent : Nat) :
    Nat → Cursor → List Char → List Char × (List Char × List Char) × Cursor
  | 0, c, breaks => ([], ([], breaks), c)
  | bound + 1, c, breaks =>
    if c.column = indent && c.peek.isSome then
      let indented := isBlankHere c.peek
      let (line, c) := c.takeWhile fun x => !isBreak x
      let (broken, c) : List Char × Cursor :=
        match c.lineBreak? with
        | some (x, c) => ([x], c)
        | none => ([], c)
      let (next, c) := blockBreaks indent (c.rest.length + 1) c
      let here := breaks ++ line
      if c.column = indent && c.peek.isSome then
        let between :=
          if fold && broken == ['\n'] && !indented && !isBlankHere c.peek then
            if next.isEmpty then [' '] else []
          else broken
        let (text, tail, c) := blockLines fold indent bound c next
        (here ++ between ++ text, tail, c)
      else (here, (broken, next), c)
    else ([], ([], breaks), c)

/-- A block text, from the sign after its mark on. Its lines are indented by more than
`parent`. -/
def blockText (fold : Bool) (parent : Int) (c : Cursor) : Option (List Char × Cursor) := do
  let (chomping, increment, c) ← blockHeader c
  if !endsLineOrSpace c.peek then none
  else
    let c ← ignoredLine c
    let least := (max (parent + 1) 1).toNat
    let bound := c.rest.length + 1
    let (breaks, indent, c) : List Char × Nat × Cursor :=
      match increment with
      | some n =>
        let indent := least + n - 1
        let (breaks, c) := blockBreaks indent bound c
        (breaks, indent, c)
      | none =>
        let (breaks, widest, c) := blockIndentation bound c 0
        (breaks, max least widest, c)
    let (text, (broken, after), c) := blockLines fold indent bound c breaks
    match chomping with
    | .strip => return (text, c)
    | .clip => return (text ++ broken, c)
    | .keep => return (text ++ broken ++ after, c)

end TuiTemplate.Yaml
