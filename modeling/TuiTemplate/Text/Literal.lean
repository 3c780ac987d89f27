import TuiTemplate.Text.Digit
set_option autoImplicit false

namespace TuiTemplate.Text

/-- What has to be known of a literal to tell what it may be part of. A sign may stand before a
number, and an imaginary number may follow another one and a sign. Members of a set and keys of a
table have to be fixed, which sets and tables are not, as they can be changed. -/
inductive LiteralKind where
  | number (imaginary signed : Bool)
  | fixed
  | changeable
deriving DecidableEq, Repr

namespace Literal

abbrev Reader (α : Type) := List Char → Option (α × List Char)

def isWordChar (c : Char) : Bool := c.isAlphanum || c == '_' || 127 < c.toNat

/-- Passes blanks and comments. Within brackets also the ends of lines are passed. -/
def skipGaps (inside : Bool) : List Char → List Char
  | [] => []
  | c :: rest =>
    if c = ' ' || c = '\t' || c = '\x0c' || (inside && (c = '\n' || c = '\r')) then
      skipGaps inside rest
    else if c = '#' then skipComment inside rest
    else c :: rest
where
  skipComment (inside : Bool) : List Char → List Char
    | [] => []
    | c :: rest =>
      if c = '\n' || c = '\r' then if inside then skipGaps inside rest else c :: rest
      else skipComment inside rest

/-- Digits of a base, with single underscores between them. -/
def digits (base : Nat) (cs : List Char) : List Char × List Char :=
  let isDigit (c : Char) : Bool := c.toNat < 128 && (digitValue? base c).isSome
  let rec go : Nat → List Char → List Char × List Char
    | 0, cs => ([], cs)
    | bound + 1, cs =>
      let found := cs.takeWhile isDigit
      match cs.drop found.length with
      | '_' :: c :: rest =>
        if isDigit c && !found.isEmpty then
          let (more, rest) := go bound (c :: rest)
          (found ++ more, rest)
        else (found, '_' :: c :: rest)
      | rest => (found, rest)
  go cs.length cs

/-- A power of ten after the digits, if one is there. -/
def exponent (cs : List Char) : Bool × List Char :=
  match cs with
  | e :: rest =>
    let (found, after) := digits 10 (dropSign rest)
    if (e = 'e' || e = 'E') && !found.isEmpty then (true, after) else (false, cs)
  | [] => (false, [])

/-- A number without a sign. Only zero and numbers with a point, an exponent or the mark of an
imaginary number may begin with a zero. Words may not follow at once. -/
def number : Reader LiteralKind := fun cs => do
  let (imaginary, rest) ←
    match cs with
    | '0' :: mark :: rest =>
      match [2, 8, 16].find? fun base => baseMark? base = some mark.toLower with
      | some base =>
        let (found, rest) := digits base (if rest.head? = some '_' then rest.drop 1 else rest)
        if found.isEmpty then none else some (false, rest)
      | none => decimal cs
    | _ => decimal cs
  if rest.head?.any isWordChar then none else return (.number imaginary false, rest)
where
  decimal (cs : List Char) : Option (Bool × List Char) :=
    let (whole, rest) := digits 10 cs
    let (pointed, fraction, rest) :=
      match rest with
      | '.' :: rest =>
        let (fraction, rest) := digits 10 rest
        (true, fraction, rest)
      | rest => (false, [], rest)
    let (powered, rest) := exponent rest
    let isWhole := !pointed && !powered
    if whole.isEmpty && fraction.isEmpty then none
    else
      match rest with
      | mark :: after =>
        if mark = 'j' || mark = 'J' then some (true, after) else integral isWhole whole rest
      | [] => integral isWhole whole rest
  integral (isWhole : Bool) (whole rest : List Char) : Option (Bool × List Char) :=
    if isWhole && ((whole.head? = some '0' && whole.any (· ≠ '0')) || maxDigits < whole.length)
    then none
    else some (false, rest)

/-- The digits in base sixteen that an escape needs. -/
def escapeDigits (bytes : Bool) (mark : Char) : Nat :=
  if mark = 'x' then 2
  else if bytes then 0
  else if mark = 'u' then 4
  else if mark = 'U' then 8
  else 0

/-- The rest of a quoted text after its opening quote, which ends with the same quote. A text in
single quotes is on one line. -/
def quotedRest (bytes raw : Bool) (quote : List Char) : Nat → List Char → Option (List Char)
  | 0, _ => none
  | bound + 1, cs =>
    if quote.isPrefixOf cs then some (cs.drop quote.length)
    else
      match cs with
      | '\\' :: mark :: rest =>
        let needed := if raw then 0 else escapeDigits bytes mark
        let found := rest.take needed
        if found.length < needed || !found.all (fun c => (digitIn16 c).isSome) ||
            0x110000 ≤ found.foldl (fun n c => 16 * n + (digitIn16 c).getD 0) 0 ||
            (bytes && 127 < mark.toNat) then none
        else quotedRest bytes raw quote bound (rest.drop needed)
      | c :: rest =>
        if (bytes && 127 < c.toNat) || (quote.length = 1 && (c = '\n' || c = '\r')) then none
        else quotedRest bytes raw quote bound rest
      | [] => none
where
  digitIn16 (c : Char) : Option Nat := if c.toNat < 128 then digitValue? 16 c else none

/-- A quoted text with the word before it, which tells whether it holds bytes. -/
def quoted : Reader Bool := fun cs => do
  let word := (cs.takeWhile Char.isAlpha).map Char.toLower
  let rest := cs.drop word.length
  let mark ← rest.head?
  let bytes := word.contains 'b'
  if (mark ≠ '"' ∧ mark ≠ '\'') ∨ String.ofList word ∉ ["", "r", "u", "b", "br", "rb"] then none
  else
    let quote := if [mark, mark, mark].isPrefixOf rest then [mark, mark, mark] else [mark]
    let rest ← quotedRest bytes (word.contains 'r') quote (rest.length + 1)
      (rest.drop quote.length)
    return (bytes, rest)

/-- Quoted texts after one another make up one, if all or none of them hold bytes. -/
def quotedRun (inside : Bool) : Nat → Reader Bool
  | 0, _ => none
  | bound + 1, cs => do
    let (bytes, rest) ← quoted cs
    let next := skipGaps inside rest
    match quoted next with
    | none => if startsQuoted next then none else return (bytes, rest)
    | some _ =>
      let (more, rest) ← quotedRun inside bound next
      if more = bytes then return (bytes, rest) else none
where
  startsQuoted (cs : List Char) : Bool :=
    (cs.dropWhile Char.isAlpha).head?.any fun c => c = '"' || c = '\''

/-- A word that is a literal. An empty set is written with a word. -/
def word (inside : Bool) : Reader LiteralKind := fun cs =>
  let name := cs.takeWhile isWordChar
  let rest := cs.drop name.length
  match String.ofList name with
  | "True" | "False" | "None" => some (.fixed, rest)
  | "set" =>
    match skipGaps inside rest with
    | '(' :: rest =>
      match skipGaps true rest with
      | ')' :: rest => some (.changeable, rest)
      | _ => none
    | _ => none
  | _ => none

/-- How several literals between brackets are taken together. -/
def tupleKind (kinds : List LiteralKind) : LiteralKind :=
  if kinds.contains .changeable then .changeable else .fixed

mutual

/-- A literal without a sign before it. -/
def primary (inside : Bool) : Nat → Reader LiteralKind
  | 0, _ => none
  | bound + 1, cs =>
    match cs with
    | '.' :: '.' :: '.' :: rest => some (.fixed, rest)
    | '(' :: rest => do
      let ((kinds, commas), rest) ← items ')' bound (skipGaps true rest)
      match kinds with
      | [kind] => return (if commas then tupleKind kinds else kind, rest)
      | _ => return (tupleKind kinds, rest)
    | '\x7b' :: rest => members none bound (skipGaps true rest)
    | c :: _ =>
      if c.isDigit || c = '.' then number cs
      else
        match quotedRun inside cs.length cs with
        | some (_, rest) => some (.fixed, rest)
        | none => word inside cs
    | [] => none

/-- A literal with its sign. -/
def signedLiteral (inside : Bool) : Nat → Reader LiteralKind
  | 0, _ => none
  | bound + 1, cs =>
    match cs with
    | c :: rest =>
      if c = '+' || c = '-' then
        match primary inside bound (skipGaps inside rest) with
        | some (.number imaginary false, rest) => some (.number imaginary true, rest)
        | _ => none
      else primary inside bound cs
    | [] => none

/-- A literal, perhaps a sum of a number and an imaginary one. -/
def literal (inside : Bool) : Nat → Reader LiteralKind
  | 0, _ => none
  | bound + 1, cs => do
    let (kind, rest) ← signedLiteral inside bound cs
    match skipGaps inside rest with
    | c :: after =>
      if c = '+' || c = '-' then
        match kind, ← primary inside bound (skipGaps inside after) with
        | .number false _, (.number true false, rest) => return (.fixed, rest)
        | _, _ => none
      else return (kind, rest)
    | [] => return (kind, rest)

/-- Literals up to a closing bracket, and whether there is a comma among them. -/
def items (close : Char) : Nat → Reader (List LiteralKind × Bool)
  | 0, _ => none
  | bound + 1, cs =>
    if cs.head? = some close then some (([], false), cs.drop 1)
    else do
      let (kind, rest) ← literal true bound cs
      match skipGaps true rest with
      | ',' :: rest =>
        let ((kinds, _), rest) ← items close bound (skipGaps true rest)
        return ((kind :: kinds, true), rest)
      | c :: rest => if c = close then return (([kind], false), rest) else none
      | [] => none

/-- The members of a set or the entries of a table, up to the closing brace. -/
def members (table : Option Bool) : Nat → Reader LiteralKind
  | 0, _ => none
  | bound + 1, cs =>
    if cs.head? = some '\x7d' then some (.changeable, cs.drop 1)
    else do
      let (kind, rest) ← literal true bound cs
      if kind = .changeable then none
      else
        let rest := skipGaps true rest
        let isEntry := rest.head? = some ':'
        let rest ←
          if isEntry then do
            let (_, rest) ← literal true bound (skipGaps true (rest.drop 1))
            pure (skipGaps true rest)
          else pure rest
        if table.any (· != isEntry) then none
        else
          match rest with
          | ',' :: rest => members (some isEntry) bound (skipGaps true rest)
          | '\x7d' :: rest => return (.changeable, rest)
          | _ => none

end

/-- Literals with commas between them, up to the end of the text. -/
def row : Nat → List Char → Bool
  | 0, _ => false
  | bound + 1, cs =>
    match literal false (bound + 1) cs with
    | none => false
    | some (_, rest) =>
      match skipGaps false rest with
      | ',' :: rest =>
        let rest := skipGaps false rest
        (skipGaps true rest).isEmpty || row bound rest
      | rest => (skipGaps true rest).isEmpty

end Literal

/-- Whether a text is a literal, or several of them with commas between them. -/
def isLiteral (s : String) : Bool :=
  let cs := s.toList
  !cs.contains '\x00' && Literal.row (4 * cs.length + 8) (cs.dropWhile fun c => c = ' ' || c = '\t')

end TuiTemplate.Text
