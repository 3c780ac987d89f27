import TuiTemplate.Yaml.ScalarText
import TuiTemplate.Yaml.Value
set_option autoImplicit false

namespace TuiTemplate.Yaml

inductive Timestamp where
  | date (date : Date)
  | moment (moment : Moment)
deriving DecidableEq, Repr

def checkDate (d : Date) : Except String Date :=
  if d.year = 0 then .error "year 0 is out of range"
  else if d.month = 0 || 12 < d.month then .error "month must be in 1..12"
  else if d.day = 0 || daysInMonth d.year d.month < d.day then
    .error "day is out of range for month"
  else .ok d

def checkOffset (offset : Int) : Except String Int :=
  if offset.natAbs < offsetLimit then .ok offset
  else
    .error ("offset must be a timedelta strictly between -timedelta(hours=24) and " ++
      "timedelta(hours=24), not " ++ durationText offset ++ ".")

def checkMoment (m : Moment) : Except String Moment := do
  let _ ← (m.offset.mapM checkOffset)
  let _ ← checkDate m.date
  if 23 < m.hour then .error "hour must be in 0..23"
  else if 59 < m.minute then .error "minute must be in 0..59"
  else if 59 < m.second then .error "second must be in 0..59"
  else .ok m

def decimalOf (cs : List Char) : Nat := cs.foldl (fun n c => 10 * n + (c.toNat - '0'.toNat)) 0

/-- A numeral of `least` to `most` digits, as long as possible. -/
def digits? (least most : Nat) (cs : List Char) : Option (Nat × List Char) :=
  let digits := (cs.take most).takeWhile Char.isDigit
  if digits.length < least then none else some (decimalOf digits, cs.drop digits.length)

def sign? (sign : Char) : List Char → Option (List Char)
  | c :: rest => if c = sign then some rest else none
  | [] => none

def skipBlanks (cs : List Char) : List Char := cs.dropWhile fun c => c == ' ' || c == '\t'

/-- The zone at the end of a moment: none, universal time, or hours with minutes after a
sign. -/
def zone? (cs : List Char) : Option (Option Int) :=
  match skipBlanks cs with
  | [] => if cs.isEmpty then some none else none
  | ['Z'] => some (some 0)
  | sign :: rest =>
    if sign == '+' || sign == '-' then do
      let (hours, rest) ← digits? 1 2 rest
      let minutes ←
        match rest with
        | [] => some 0
        | ':' :: rest =>
          match digits? 2 2 rest with
          | some (minutes, []) => some minutes
          | _ => none
        | _ => none
      let offset : Int := (60 * hours + minutes : Nat)
      return some (if sign == '-' then -offset else offset)
    else none

/-- The digits after the point of a second, as millionths. Further digits are dropped. -/
def microOf (digits : List Char) : Nat :=
  let kept := digits.take 6
  decimalOf (kept ++ List.replicate (6 - kept.length) '0')

/-- The parts of a timestamp, whatever their values. A date alone stands for the whole day. -/
def timestampParts? (cs : List Char) : Option Timestamp := do
  let (year, rest) ← digits? 4 4 cs
  let (month, rest) ← digits? 1 2 (← sign? '-' rest)
  let (day, rest) ← digits? 1 2 (← sign? '-' rest)
  let date : Date := ⟨year, month, day⟩
  match rest with
  | [] => return .date date
  | c :: after =>
    let rest ←
      if c == 'T' || c == 't' then some after
      else if c == ' ' || c == '\t' then some (skipBlanks after)
      else none
    let (hour, rest) ← digits? 1 2 rest
    let (minute, rest) ← digits? 2 2 (← sign? ':' rest)
    let (second, rest) ← digits? 2 2 (← sign? ':' rest)
    let (micro, rest) : Nat × List Char :=
      match rest with
      | '.' :: rest => (microOf (rest.takeWhile Char.isDigit), rest.dropWhile Char.isDigit)
      | rest => (0, rest)
    let offset ← zone? rest
    return .moment ⟨date, hour, minute, second, micro, offset⟩

/-- Whether a plain text is a timestamp. A date alone has two digits for month and day. -/
def isTimestampText (cs : List Char) : Bool :=
  match timestampParts? cs with
  | none => false
  | some (.date _) => cs.length = 10
  | some (.moment _) => true

/-- The timestamp that a text states, or what is wrong with its values. -/
def timestampOf? (cs : List Char) : Option (Except String Timestamp) :=
  (timestampParts? cs).map fun
    | .date date => (checkDate date).map .date
    | .moment moment => (checkMoment moment).map .moment

end TuiTemplate.Yaml
