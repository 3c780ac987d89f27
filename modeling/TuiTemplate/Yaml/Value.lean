import TuiTemplate.Decimal.Shortest
import TuiTemplate.Text.Digit
import TuiTemplate.Text.Quoted
import TuiTemplate.Yaml.Error
set_option autoImplicit false

namespace TuiTemplate.Yaml

open Text

structure Date where
  year : Nat
  month : Nat
  day : Nat
deriving DecidableEq, Repr

/-- A date with a time of day, to the millionth of a second, and its distance from universal time
in minutes, if it is stated. -/
structure Moment where
  date : Date
  hour : Nat
  minute : Nat
  second : Nat
  micro : Nat
  offset : Option Int
deriving DecidableEq, Repr

/-- A numeral padded with zeros to a width. -/
def padded (width n : Nat) : String :=
  let digits := Nat.toDigits 10 n
  String.ofList (List.replicate (width - digits.length) '0' ++ digits)

def Date.text (d : Date) : String :=
  padded 4 d.year ++ "-" ++ padded 2 d.month ++ "-" ++ padded 2 d.day

def Moment.offsetText (offset : Int) : String :=
  (if offset < 0 then "-" else "+") ++ padded 2 (offset.natAbs / 60) ++ ":" ++
    padded 2 (offset.natAbs % 60)

def Moment.text (m : Moment) : String :=
  m.date.text ++ " " ++ padded 2 m.hour ++ ":" ++ padded 2 m.minute ++ ":" ++
    padded 2 m.second ++ (if m.micro = 0 then "" else "." ++ padded 6 m.micro) ++
    (m.offset.map Moment.offsetText).getD ""

def isLeapYear (year : Nat) : Bool := (year % 4 = 0 && year % 100 ≠ 0) || year % 400 = 0

def daysInMonth (year month : Nat) : Nat :=
  if month = 2 then if isLeapYear year then 29 else 28
  else if month = 4 || month = 6 || month = 9 || month = 11 then 30
  else 31

/-- The number of a day, counted from the first one of the first year. -/
def Date.dayNumber (d : Date) : Nat :=
  let years := d.year - 1
  let months := List.range (d.month - 1)
  365 * years + years / 4 - years / 100 + years / 400 +
    months.foldl (fun days month => days + daysInMonth d.year (month + 1)) d.day

def Moment.minuteNumber (m : Moment) : Nat := 24 * 60 * m.date.dayNumber + 60 * m.hour + m.minute

/-- Whether two moments are the same. Their distances from universal time may differ, but both
or neither have to state one. -/
def Moment.same (a b : Moment) : Bool :=
  match a.offset, b.offset with
  | some x, some y =>
    (a.minuteNumber - x : Int) == b.minuteNumber - y && a.second == b.second && a.micro == b.micro
  | none, none => a == b
  | _, _ => false

/-- The longest distance from universal time is less than a day. -/
def offsetLimit : Nat := 24 * 60

/-- A length of time in whole days and the seconds on top of them. What is zero is left out. -/
def durationText (minutes : Int) : String :=
  let days := Int.fdiv minutes offsetLimit
  let seconds := 60 * Int.fmod minutes offsetLimit
  let parts := [("days", days), ("seconds", seconds)].filter fun part => part.2 ≠ 0
  let shown :=
    if parts.isEmpty then ["0"] else parts.map fun part => part.1 ++ "=" ++ toString part.2
  "datetime.timedelta(" ++ ", ".intercalate shown ++ ")"

/-- A date as it is written among other values. -/
def Date.itemText (d : Date) : String :=
  "datetime.date(" ++ ", ".intercalate ([d.year, d.month, d.day].map toString) ++ ")"

def offsetItemText (offset : Int) : String :=
  "tzinfo=datetime.timezone" ++
    if offset = 0 then ".utc" else "(" ++ durationText offset ++ ")"

/-- A moment as it is written among other values. Seconds of zero are left out. -/
def Moment.itemText (m : Moment) : String :=
  let seconds :=
    if m.micro ≠ 0 then [m.second, m.micro] else if m.second ≠ 0 then [m.second] else []
  let numbers := [m.date.year, m.date.month, m.date.day, m.hour, m.minute] ++ seconds
  "datetime.datetime(" ++
    ", ".intercalate (numbers.map toString ++ (m.offset.map offsetItemText).toList) ++ ")"

inductive Scalar where
  | null
  | bool (value : Bool)
  | int (value : Int)
  | float (value : Float)
  | date (value : Date)
  | moment (value : Moment)
  | binary (bytes : List UInt8)
  | text (value : String)

namespace Scalar

/-- A byte in a quotation: as a character if it is a visible one of ASCII. -/
def quotedByte (mark : Char) (byte : UInt8) : List Char :=
  let c := Char.ofNat byte.toNat
  if byte.toNat < 128 then escapeChar mark c else '\\' :: 'x' :: hexDigits 2 byte.toNat

/-- The text that a scalar stands for. -/
def toText : Scalar → String
  | .null => "None"
  | .bool value => if value then "True" else "False"
  | .int value => toString value
  | .float value => Decimal.text value
  | .date d => d.text
  | .moment m => m.text
  | .binary bytes =>
    let mark := quoteMark (bytes.map fun byte => Char.ofNat byte.toNat)
    String.ofList ('b' :: mark :: bytes.flatMap (quotedByte mark) ++ [mark])
  | .text value => value

def tooManyDigits : String :=
  "Exceeds the limit (" ++ toString maxDigits ++
    " digits) for integer string conversion; use sys.set_int_max_str_digits() to increase the limit"

/-- Whether a scalar may be written out. For an integer the number of digits is limited. -/
def isWritable : Scalar → Bool
  | .int value => value.natAbs < Decimal.tenTo maxDigits
  | _ => true

/-- The text of a scalar, if it may be written out. -/
def text? (s : Scalar) : Except ScalarError String :=
  if s.isWritable then .ok s.toText else .error (.refused tooManyDigits)

/-- A scalar as it is written among other values. -/
def itemText? (s : Scalar) : Except ScalarError String :=
  match s with
  | .text value => .ok (quote value)
  | .date d => .ok d.itemText
  | .moment m => .ok m.itemText
  | s => s.text?

def number? : Scalar → Option Decimal.Number
  | .bool value => some (.whole (if value then 1 else 0))
  | .int value => some (.whole value)
  | .float value => some (.float value)
  | .null | .date _ | .moment _ | .binary _ | .text _ => none

/-- Whether two scalars are the same key. Numbers are the same by value, and the truth values
are the numbers one and zero. -/
def sameKey (a b : Scalar) : Bool :=
  match a, b with
  | .null, .null => true
  | .text a, .text b => a == b
  | .date a, .date b => a == b
  | .moment a, .moment b => a.same b
  | .binary a, .binary b => a == b
  | a, b =>
    match a.number?, b.number? with
    | some m, some n => m.same n
    | _, _ => false

end Scalar

end TuiTemplate.Yaml
