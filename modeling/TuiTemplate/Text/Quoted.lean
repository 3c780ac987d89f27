import TuiTemplate.Text.Printable
set_option autoImplicit false

namespace TuiTemplate.Text

/-- Lower-case hexadecimal digits of `n`, padded with zeros to at least `width`. -/
def hexDigits (width n : Nat) : List Char :=
  let digits := Nat.toDigits 16 n
  List.replicate (width - digits.length) '0' ++ digits

/-- A character inside quotes of the kind `q`. Characters without a visible form are written by
their code, in the shortest of the three widths that holds it. -/
def escapeChar (q c : Char) : List Char :=
  if c = q ∨ c = '\\' then ['\\', c]
  else if c = '\n' then ['\\', 'n']
  else if c = '\r' then ['\\', 'r']
  else if c = '\t' then ['\\', 't']
  else if isPrintable c then [c]
  else if c.toNat < 0x100 then '\\' :: 'x' :: hexDigits 2 c.toNat
  else if c.toNat < 0x10000 then '\\' :: 'u' :: hexDigits 4 c.toNat
  else '\\' :: 'U' :: hexDigits 8 c.toNat

/-- Single quotes, unless the text holds a single quote and no double quote. -/
def quoteMark (cs : List Char) : Char :=
  if cs.contains '\'' && !cs.contains '"' then '"' else '\''

def quoteChars (cs : List Char) : List Char :=
  let q := quoteMark cs
  q :: cs.flatMap (escapeChar q) ++ [q]

/-- The text between quotes, on one line and with nothing invisible in it. -/
def quote (s : String) : String := String.ofList (quoteChars s.toList)

end TuiTemplate.Text
