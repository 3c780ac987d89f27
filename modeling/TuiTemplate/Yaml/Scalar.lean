import TuiTemplate.Decimal.Shortest
import TuiTemplate.Text.Digit
import TuiTemplate.Text.Lowercase
import TuiTemplate.Yaml.Error
import TuiTemplate.Yaml.Timestamp
set_option autoImplicit false

namespace TuiTemplate.Yaml

open Text

/-- The kinds of scalars, as tags or the form of a plain text tell them. -/
inductive ScalarTag where
  | null
  | bool
  | int
  | float
  | binary
  | timestamp
  | text
  | merge
  | value
deriving DecidableEq, Repr

def boolNames : List (String × Bool) :=
  [("yes", true), ("no", false), ("true", true), ("false", false), ("on", true), ("off", false)]

/-- The three spellings of a word: small, with a capital, and in capitals. -/
def spellings (word : String) : List String := [word, word.capitalize, word.toUpper]

def isBoolText (s : String) : Bool := boolNames.any fun entry => (spellings entry.1).contains s

def isNullText (s : String) : Bool := s.isEmpty || s == "~" || (spellings "null").contains s

def isDecimal (c : Char) : Bool := '0' ≤ c && c ≤ '9'

def isDecimalOrGap (c : Char) : Bool := isDecimal c || c == '_'

/-- Parts in base sixty after a colon each: a digit, or two of which the first is below six. -/
def isSexagesimalTail : List Char → Bool
  | [] => true
  | ':' :: a :: b :: rest =>
    (('0' ≤ a && a ≤ '5') && isDecimal b && isSexagesimalTail rest) ||
      (isDecimal a && isSexagesimalTail (b :: rest))
  | [':', a] => isDecimal a
  | _ => false

def isIntText (cs : List Char) : Bool :=
  match dropSign cs with
  | '0' :: 'b' :: rest => !rest.isEmpty && rest.all fun c => c == '0' || c == '1' || c == '_'
  | '0' :: 'x' :: rest => !rest.isEmpty && rest.all fun c => isHexDigit c || c == '_'
  | ['0'] => true
  | '0' :: rest => rest.all fun c => ('0' ≤ c && c ≤ '7') || c == '_'
  | first :: rest =>
    isDecimal first && isSexagesimalTail (rest.dropWhile isDecimalOrGap)
  | [] => false

/-- A power of ten after the digits. Its sign may not be left out. -/
def isExponent : List Char → Bool
  | [] => true
  | e :: sign :: digits =>
    (e == 'e' || e == 'E') && (sign == '+' || sign == '-') && !digits.isEmpty &&
      digits.all isDecimal
  | _ => false

/-- The text before the last point and what follows it. -/
def cutAtLastPoint (cs : List Char) : Option (List Char × List Char) :=
  let after := (cs.reverse.takeWhile (· ≠ '.')).reverse
  if after.length = cs.length then none
  else some (cs.take (cs.length - after.length - 1), after)

def isSexagesimalFloat (cs : List Char) : Bool :=
  match cutAtLastPoint cs with
  | some (first :: rest, fraction) =>
    let tail := rest.dropWhile isDecimalOrGap
    isDecimal first && !tail.isEmpty && isSexagesimalTail tail && fraction.all isDecimalOrGap
  | _ => false

def isFloatText (cs : List Char) : Bool :=
  let unsigned := dropSign cs
  let named := (spellings "inf").map fun word => '.' :: word.toList
  let point (rest : List Char) : Bool := isExponent (rest.dropWhile isDecimalOrGap)
  let plain : Bool :=
    match unsigned with
    | first :: rest =>
      isDecimal first &&
        match rest.dropWhile isDecimalOrGap with
        | '.' :: rest => point rest
        | _ => false
    | [] => false
  let leadingPoint : Bool :=
    match cs with
    | '.' :: first :: rest => isDecimal first && point rest
    | _ => false
  plain || leadingPoint || isSexagesimalFloat unsigned || named.contains unsigned ||
    [".nan", ".NaN", ".NAN"].contains (String.ofList cs)

/-- The part of a text that tells its form. A line feed at the end does not count, unless it is all
there is. -/
def formOf (s : String) : String :=
  match s.toList.reverse with
  | '\n' :: c :: rest => String.ofList (c :: rest).reverse
  | _ => s

/-- The kind of a text by its form, as that of a plain text is told. -/
def tagOfPlain (text : String) : ScalarTag :=
  let s := formOf text
  let cs := s.toList
  if isBoolText s then .bool
  else if isFloatText cs then .float
  else if isIntText cs then .int
  else if s == "<<" then .merge
  else if isNullText s then .null
  else if isTimestampText cs then .timestamp
  else if s == "=" then .value
  else .text

def integer (base : Nat) (cs : List Char) : Except ReadError Int :=
  (parseInteger base (String.ofList cs)).mapError fun e => .refused e.message

def splitColons (cs : List Char) : List (List Char) :=
  ((String.ofList cs).splitOn ":").map String.toList

/-- An integer after its sign, in the base that its first characters tell. -/
def unsignedInt (cs : List Char) : Except ReadError Int :=
  match cs with
  | [] => .error (.noValue .noDigits)
  | ['0'] => .ok 0
  | '0' :: 'b' :: rest => integer 2 rest
  | '0' :: 'x' :: rest => integer 16 rest
  | '0' :: _ => integer 8 cs
  | _ =>
    if cs.contains ':' then
      ((splitColons cs).mapM (integer 10)).map fun parts =>
        parts.foldl (fun n part => 60 * n + part) 0
    else integer 10 cs

def intValue (s : String) : Except ReadError Int :=
  let cs := s.toList.filter (· ≠ '_')
  (unsignedInt (dropSign cs)).map fun n => if isNegative cs then -n else n

/-- A decimal with point and exponent, in small letters and without a sign. -/
def unsignedFloat (cs : List Char) : Option Float :=
  let whole := cs.takeWhile isDecimal
  let (fraction, rest) :=
    match cs.dropWhile isDecimal with
    | '.' :: rest => (rest.takeWhile isDecimal, rest.dropWhile isDecimal)
    | rest => ([], rest)
  let exponent : Option Int :=
    match rest with
    | [] => some 0
    | 'e' :: digits =>
      let unsigned := dropSign digits
      if unsigned.isEmpty || !unsigned.all isDecimal then none
      else some (signed (isNegative digits) (valueOfDigits (unsigned.map hexValue)))
    | _ => none
  if whole.isEmpty && fraction.isEmpty then none
  else
    exponent.map fun exponent =>
      Decimal.floatOf (valueOfDigits ((whole ++ fraction).map hexValue))
        (exponent - fraction.length)

/-- The same digit in ASCII. Other characters stay. -/
def asciiDigit (c : Char) : Char :=
  match decimalValue? c with
  | some value => Char.ofNat ('0'.toNat + value)
  | none => c

/-- A float as it may stand in a text: with blanks around it, a sign, and perhaps a name instead
of digits. -/
def floatOf? (cs : List Char) : Option Float :=
  let trimmed := (trimNumeral cs).map asciiDigit
  let unsigned := dropSign trimmed
  let word := String.ofList unsigned
  let value :=
    if word == "inf" || word == "infinity" then some (1.0 / 0.0)
    else if word == "nan" then some (0.0 / 0.0)
    else unsignedFloat unsigned
  value.map fun x => if isNegative trimmed then -x else x

def floatPart (cs : List Char) : Except ReadError Float :=
  match floatOf? cs with
  | some value => .ok value
  | none =>
    .error (.refused ("could not convert string to float: " ++ quote (String.ofList cs)))

/-- The most parts in base sixty whose weights are floats. -/
def maxWeights : Nat := 174

/-- A sum of parts in base sixty. A part whose weight is no float is beyond all bounds. -/
def sexagesimal (parts : List Float) : Except ReadError Float :=
  if maxWeights < parts.length then .error (.noValue .beyondBounds)
  else
    .ok (parts.reverse.foldl
      (fun (sum, weight) part => (sum + part * Float.ofNat weight, weight * 60))
      ((0.0 : Float), 1)).1

def floatValue (s : String) : Except ReadError Float :=
  let cs := (lower (String.ofList (s.toList.filter (· ≠ '_')))).toList
  let unsigned := dropSign cs
  let word := String.ofList unsigned
  let sign : Float := if isNegative cs then -1 else 1
  if cs.isEmpty then .error (.noValue .noDigits)
  else if word == ".inf" then .ok (sign * (1.0 / 0.0))
  else if word == ".nan" then .ok (0.0 / 0.0)
  else if unsigned.contains ':' then do
    return sign * (← sexagesimal (← (splitColons unsigned).mapM floatPart))
  else (floatPart unsigned).map (sign * ·)

def base64Value (c : Char) : Option Nat :=
  if 'A' ≤ c && c ≤ 'Z' then some (c.toNat - 'A'.toNat)
  else if 'a' ≤ c && c ≤ 'z' then some (c.toNat - 'a'.toNat + 26)
  else if isDecimal c then some (c.toNat - '0'.toNat + 52)
  else if c = '+' then some 62
  else if c = '/' then some 63
  else none

/-- The six-bit digits before the padding. Other characters are passed over. Padding counts only
once a group has two digits or more, and has to fill the group. -/
def base64Digits (place pads : Nat) : List Char → Option (List Nat)
  | [] => if place = 0 then some [] else none
  | c :: rest =>
    if c = '=' then
      if 2 ≤ place && 4 ≤ place + pads + 1 then some []
      else base64Digits place (pads + 1) rest
    else
      match base64Value c with
      | none => base64Digits place pads rest
      | some digit => (base64Digits ((place + 1) % 4) 0 rest).map (digit :: ·)

def base64Bytes : List Nat → List UInt8
  | a :: b :: c :: d :: rest =>
    (a * 4 + b / 16).toUInt8 :: (b % 16 * 16 + c / 4).toUInt8 :: (c % 4 * 64 + d).toUInt8 ::
      base64Bytes rest
  | [a, b, c] => [(a * 4 + b / 16).toUInt8, (b % 16 * 16 + c / 4).toUInt8]
  | [a, b] => [(a * 4 + b / 16).toUInt8]
  | _ => []

/-- The value of a text of some kind. -/
def scalarOf (tag : ScalarTag) (s : String) : Except ReadError Scalar :=
  match tag with
  | .null => .ok .null
  | .bool =>
    match boolNames.lookup (lower s) with
    | some value => .ok (.bool value)
    | none => .error (.noValue .unknownName)
  | .int => (intValue s).map .int
  | .float => (floatValue s).map .float
  | .timestamp =>
    match timestampOf? (formOf s).toList with
    | none => .error (.noValue .noDate)
    | some (.error message) => .error (.refused message)
    | some (.ok (.date date)) => .ok (.date date)
    | some (.ok (.moment moment)) => .ok (.moment moment)
  | .binary =>
    if s.toList.all fun c => c.toNat < 128 then
      match base64Digits 0 0 s.toList with
      | some digits => .ok (.binary (base64Bytes digits))
      | none => .error .malformed
    else .error .malformed
  | .text => .ok (.text s)
  | .merge | .value => .error .malformed

end TuiTemplate.Yaml
