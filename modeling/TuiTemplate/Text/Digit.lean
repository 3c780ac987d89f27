import TuiTemplate.Text.Quoted
import TuiTemplate.Text.Blank
set_option autoImplicit false

namespace TuiTemplate.Text

/-- The code points of the zeros of all scripts. The digits up to nine follow each of them. -/
def zeros : List Nat := [
  48, 1632, 1776, 1984, 2406, 2534, 2662, 2790, 2918, 3046, 3174, 3302, 3430, 3558, 3664, 3792,
  3872, 4160, 4240, 6112, 6160, 6470, 6608, 6784, 6800, 6992, 7088, 7232, 7248, 42528, 43216,
  43264, 43472, 43504, 43600, 44016, 65296, 66720, 68912, 69734, 69872, 69942, 70096, 70384,
  70736, 70864, 71248, 71360, 71472, 71904, 72016, 72784, 73040, 73120, 92768, 92864, 93008,
  120782, 120792, 120802, 120812, 120822, 123200, 123632, 125264, 130032]

/-- First and last code points of the runs of digits that are not part of a decimal system, such
as superscripts and digits in circles. -/
def loneDigitRuns : List (Nat × Nat) := [
  (178, 179), (185, 185), (4969, 4977), (6618, 6618), (8304, 8304), (8308, 8313), (8320, 8329),
  (9312, 9320), (9332, 9340), (9352, 9360), (9450, 9450), (9461, 9469), (9471, 9471),
  (10102, 10110), (10112, 10120), (10122, 10130), (68160, 68163), (69216, 69224),
  (69714, 69722), (127232, 127242)]

/-- The value of a decimal digit of any script. -/
def decimalValue? (c : Char) : Option Nat :=
  (zeros.find? fun first => first ≤ c.toNat && c.toNat ≤ first + 9).map fun first => c.toNat - first

def isDigit (c : Char) : Bool :=
  (decimalValue? c).isSome || loneDigitRuns.any fun run => run.1 ≤ c.toNat && c.toNat ≤ run.2

/-- Why a text of digits is no number that can be read. -/
inductive NumeralError where
  | notANumeral (base : Nat) (literal : String)
  | tooLong (digits : Nat)
deriving DecidableEq, Repr

/-- The most digits that are read. -/
def maxDigits : Nat := 4300

/-- The longest quotation of a text that is refused. -/
def maxQuotation : Nat := 200

def NumeralError.message : NumeralError → String
  | .notANumeral base literal =>
    "invalid literal for int() with base " ++ toString base ++ ": " ++
      String.ofList ((quote literal).toList.take maxQuotation)
  | .tooLong digits =>
    "Exceeds the limit (" ++ toString maxDigits ++
      " digits) for integer string conversion: value has " ++ toString digits ++
      " digits; use sys.set_int_max_str_digits() to increase the limit"

/-- Blanks around a numeral. The four separators among the controls are none. -/
def isNumeralBlank (c : Char) : Bool := isBlank c && !(28 ≤ c.toNat && c.toNat ≤ 31)

def trimNumeral (cs : List Char) : List Char :=
  dropTrailing isNumeralBlank (cs.dropWhile isNumeralBlank)

def valueOfDigits (digits : List Nat) : Nat := digits.foldl (fun n d => 10 * n + d) 0

/-- Reads a numeral of decimal digits with blanks around it. Its length is checked before what
follows the digits. -/
def parseNumeral (literal : String) : Except NumeralError Nat :=
  let cs := trimNumeral literal.toList
  let digits := (cs.takeWhile fun c => (decimalValue? c).isSome).filterMap decimalValue?
  if maxDigits < digits.length then .error (.tooLong digits.length)
  else if digits.isEmpty || digits.length ≠ cs.length then .error (.notANumeral 10 literal)
  else .ok (valueOfDigits digits)

/-- The value of a digit in some base up to sixteen: a decimal digit of any script, or one of the
first letters. -/
def digitValue? (base : Nat) (c : Char) : Option Nat :=
  let value :=
    match decimalValue? c with
    | some value => some value
    | none =>
      if 'a' ≤ c.toLower && c.toLower ≤ 'f' then some (c.toLower.toNat - 'a'.toNat + 10) else none
  value.filter (· < base)

/-- The letter that marks a base after a zero. -/
def baseMark? : Nat → Option Char
  | 2 => some 'b'
  | 8 => some 'o'
  | 16 => some 'x'
  | _ => none

/-- A numeral without the mark of its base. -/
def dropBaseMark (base : Nat) : List Char → List Char
  | zero :: mark :: rest =>
    if decimalValue? zero = some 0 && baseMark? base = some mark.toLower then rest
    else zero :: mark :: rest
  | cs => cs

def dropSign : List Char → List Char
  | '+' :: rest => rest
  | '-' :: rest => rest
  | cs => cs

def isNegative (cs : List Char) : Bool := cs.head? == some '-'

def signed (negative : Bool) (n : Nat) : Int := if negative then -(n : Int) else n

/-- Reads an integer in some base, with blanks around it, a sign, and perhaps the mark of the base.
In base ten the number of digits is limited. -/
def parseInteger (base : Nat) (literal : String) : Except NumeralError Int :=
  let cs := trimNumeral literal.toList
  let numeral := dropBaseMark base (dropSign cs)
  let digits := (numeral.takeWhile fun c => (digitValue? base c).isSome).filterMap
    (digitValue? base)
  if base = 10 && maxDigits < digits.length then .error (.tooLong digits.length)
  else if digits.isEmpty || digits.length ≠ numeral.length then .error (.notANumeral base literal)
  else .ok (signed (isNegative cs) (digits.foldl (fun n d => base * n + d) 0))

end TuiTemplate.Text
