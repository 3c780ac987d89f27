set_option autoImplicit false

namespace TuiTemplate.Decimal

def twoTo (n : Nat) : Nat := Nat.pow 2 n

def tenTo (n : Nat) : Nat := Nat.pow 10 n

/-- A finite positive binary fraction `significand * 2 ^ exponent`. `narrow` tells that the
next smaller one is only half as far away as the next larger one. -/
structure Binary where
  significand : Nat
  exponent : Int
  narrow : Bool
deriving DecidableEq, Repr

/-- `n * 2 ^ e` as a quotient. -/
def scaled (n : Nat) (e : Int) : Nat × Nat :=
  if 0 ≤ e then (n * twoTo e.toNat, 1) else (n, twoTo (-e).toNat)

/-- The decimal `digits * 10 ^ exponent`. -/
structure Value where
  digits : Nat
  exponent : Int
deriving DecidableEq, Repr

namespace Binary

/-- Whether reading a decimal gives back the binary fraction: it lies between the middles of the
gaps on both sides. A middle itself is read as the neighbour with an even significand. -/
def reads (b : Binary) (d : Value) : Bool :=
  let low := 4 * b.significand - (if b.narrow then 1 else 2)
  let high := 4 * b.significand + 2
  let (num, den) :=
    if 0 ≤ d.exponent then (d.digits * tenTo d.exponent.toNat, 1)
    else (d.digits, tenTo (-d.exponent).toNat)
  let (lowNum, lowDen) := scaled low (b.exponent - 2)
  let (highNum, highDen) := scaled high (b.exponent - 2)
  if b.significand % 2 = 0 then
    lowNum * den ≤ num * lowDen && num * highDen ≤ highNum * den
  else lowNum * den < num * lowDen && num * highDen < highNum * den

/-- The value divided by a power of ten: the whole part, and twice the rest with the divisor. -/
def quotient (b : Binary) (place : Int) : Nat × Nat × Nat :=
  let (num, den) := scaled b.significand b.exponent
  let (num, den) :=
    if 0 ≤ place then (num, den * tenTo place.toNat) else (num * tenTo (-place).toNat, den)
  (num / den, 2 * (num % den), den)

/-- The two decimals around the value on the grid of a power of ten, the nearer one first. -/
def neighbours (b : Binary) (place : Int) : List Value :=
  let (below, rest, den) := b.quotient place
  if rest < den || (rest = den && below % 2 = 0) then [⟨below, place⟩, ⟨below + 1, place⟩]
  else [⟨below + 1, place⟩, ⟨below, place⟩]

/-- The number of digits before the point, below zero for small values. -/
def magnitude (b : Binary) : Int :=
  let (num, den) := scaled b.significand b.exponent
  if den ≤ num then ((Nat.toDigits 10 (num / den)).length : Int)
  else
    let tenths := (Nat.toDigits 10 (den / num)).length
    if den ≤ num * tenTo (tenths - 1) then 2 - (tenths : Int) else 1 - (tenths : Int)

/-- The first grid, from coarse to fine, that has a decimal which reads back. -/
def search (b : Binary) (magnitude : Int) : Nat → Nat → Value
  | 0, _ => ⟨0, 0⟩
  | bound + 1, count =>
    match (b.neighbours (magnitude - count)).find? b.reads with
    | some d => d
    | none => b.search magnitude bound (count + 1)

/-- The decimal with the fewest digits that reads back, and the nearest of those. -/
def shortest (b : Binary) : Value := b.search b.magnitude 20 1

end Binary

/-- The parts of a finite float above zero. -/
def binaryOf (x : Float) : Binary :=
  let bits := x.toBits.toNat
  let fraction : Nat := bits % twoTo 52
  let exponent : Nat := bits / twoTo 52 % twoTo 11
  if exponent = 0 then ⟨fraction, -1074, false⟩
  else ⟨fraction + twoTo 52, (exponent : Int) - 1075, fraction = 0 && 1 < exponent⟩

/-- The digits without zeros at their end, with the exponent that makes up for them. -/
def stripZeros : Nat → Value → Value
  | 0, d => d
  | bound + 1, d =>
    if d.digits % 10 = 0 && 0 < d.digits then stripZeros bound ⟨d.digits / 10, d.exponent + 1⟩
    else d

/-- A decimal is written with a point from 10 ^ -4 up to 10 ^ 16, and with an exponent of two
digits at least outside. -/
def Value.text (d : Value) : String :=
  let digits := Nat.toDigits 10 d.digits
  let point : Int := digits.length + d.exponent
  let zeros (n : Int) : List Char := List.replicate n.toNat '0'
  if -4 < point && point ≤ 16 then
    if point ≤ 0 then String.ofList (['0', '.'] ++ zeros (-point) ++ digits)
    else if (digits.length : Int) ≤ point then
      String.ofList (digits ++ zeros (point - digits.length) ++ ['.', '0'])
    else String.ofList (digits.take point.toNat ++ ['.'] ++ digits.drop point.toNat)
  else
    let power := Nat.toDigits 10 (point - 1).natAbs
    let mantissa := digits.take 1 ++ (if digits.length = 1 then [] else '.' :: digits.drop 1)
    String.ofList (mantissa ++ ['e', if point < 1 then '-' else '+'] ++
      List.replicate (2 - power.length) '0' ++ power)

/-- The text of a float, the shortest that reads back. -/
def text (x : Float) : String :=
  if x.isNaN then "nan"
  else
    let negative := x.toBits.toNat / twoTo 63 = 1
    let sign := if negative then "-" else ""
    if x.isInf then sign ++ "inf"
    else if x == 0 then sign ++ "0.0"
    else sign ++ (stripZeros 400 (binaryOf x).shortest).text

/-- The float nearest to `digits * 10 ^ exponent`. -/
def floatOf (digits : Nat) (exponent : Int) : Float :=
  if digits = 0 then 0
  else if exponent < 0 then
    if exponent < -400 - ((Nat.toDigits 10 digits).length : Int) then 0
    else Float.ofScientific digits true (-exponent).toNat
  else if 400 < exponent then 1.0 / 0.0
  else Float.ofScientific digits false exponent.toNat

/-- A number that is whole or a float. -/
inductive Number where
  | whole (value : Int)
  | float (value : Float)

namespace Number

/-- Whether a whole number and a float are the same number. -/
def wholeIsFloat (n : Int) (x : Float) : Bool :=
  if x.isNaN || x.isInf then false
  else if x == 0 then n = 0
  else
    let b := binaryOf x
    let (num, den) := scaled b.significand b.exponent
    let negative := x.toBits.toNat / twoTo 63 = 1
    n.natAbs * den = num && decide (n < 0) = negative

/-- Whether two numbers are the same. What is no number is the same as itself here. -/
def same : Number → Number → Bool
  | .whole a, .whole b => a = b
  | .whole a, .float b => wholeIsFloat a b
  | .float a, .whole b => wholeIsFloat b a
  | .float a, .float b => a == b || (a.isNaN && b.isNaN)

end Number

end TuiTemplate.Decimal
