import TuiTemplate.Text.Quoted
set_option autoImplicit false

namespace TuiTemplate.Text

/-- Why a byte cannot be read: no character starts with it, the next byte does not go on with the
character, or there is no next byte. -/
inductive Utf8Reason where
  | startByte
  | continuation
  | endOfData
deriving DecidableEq, Repr

/-- The bytes that cannot be read, and the place of the first of them. -/
structure Utf8Error where
  position : Nat
  bytes : List UInt8
  reason : Utf8Reason
deriving DecidableEq, Repr

def Utf8Reason.name : Utf8Reason → String
  | .startByte => "invalid start byte"
  | .continuation => "invalid continuation byte"
  | .endOfData => "unexpected end of data"

def Utf8Error.message (e : Utf8Error) : String :=
  let span :=
    match e.bytes with
    | [byte] =>
      "byte 0x" ++ String.ofList (hexDigits 2 byte.toNat) ++ " in position " ++ toString e.position
    | bytes =>
      "bytes in position " ++ toString e.position ++ "-" ++
        toString (e.position + bytes.length - 1)
  "'utf-8' codec can't decode " ++ span ++ ": " ++ e.reason.name

def isContinuation (b : UInt8) : Bool := 0x80 ≤ b && b < 0xc0

/-- Whether a byte may follow the first byte of a character of three or four. Four first bytes
allow only some, lest a character have a longer form than it needs, be a surrogate, or lie beyond
the last one. -/
def isSecond (first b : UInt8) : Bool :=
  isContinuation b && (first != 0xe0 || 0xa0 ≤ b) && (first != 0xed || b < 0xa0) &&
    (first != 0xf0 || 0x90 ≤ b) && (first != 0xf4 || b < 0x90)

def low (b : UInt8) : Nat := b.toNat % 64

/-- Puts a character in front of a decoded text. -/
def prepend (n : Nat) (r : Except Utf8Error (List Char × List UInt8)) :
    Except Utf8Error (List Char × List UInt8) :=
  r.map fun found => (Char.ofNat n :: found.1, found.2)

/-- The characters that bytes from some position on stand for, and the bytes at the end that
begin a character without finishing it. -/
def decodeFrom (position : Nat) : List UInt8 → Except Utf8Error (List Char × List UInt8)
  | [] => .ok ([], [])
  | a :: rest =>
    if a < 0x80 then prepend a.toNat (decodeFrom (position + 1) rest)
    else if a < 0xc2 || 0xf5 ≤ a then .error ⟨position, [a], .startByte⟩
    else
      match rest with
      | [] => .ok ([], [a])
      | b :: rest =>
        if a < 0xe0 then
          if isContinuation b then
            prepend (a.toNat % 32 * 64 + low b) (decodeFrom (position + 2) rest)
          else .error ⟨position, [a], .continuation⟩
        else if !isSecond a b then .error ⟨position, [a], .continuation⟩
        else
          match rest with
          | [] => .ok ([], [a, b])
          | c :: rest =>
            if !isContinuation c then .error ⟨position, [a, b], .continuation⟩
            else if a < 0xf0 then
              prepend ((a.toNat % 16 * 64 + low b) * 64 + low c) (decodeFrom (position + 3) rest)
            else
              match rest with
              | [] => .ok ([], [a, b, c])
              | d :: rest =>
                if !isContinuation d then .error ⟨position, [a, b, c], .continuation⟩
                else
                  prepend (((a.toNat % 8 * 64 + low b) * 64 + low c) * 64 + low d)
                    (decodeFrom (position + 4) rest)

/-- The text that bytes stand for. -/
def decodeUtf8 (bytes : List UInt8) : Except Utf8Error (List Char) :=
  match decodeFrom 0 bytes with
  | .error e => .error e
  | .ok (text, []) => .ok text
  | .ok (_, left) => .error ⟨bytes.length - left.length, left, .endOfData⟩

/-- The text of bytes that arrive in pieces, the first of them after the bytes `carry`, up to the
first piece that cannot be decoded, with what is wrong there. Positions count from the start of a
piece, with what was left over before it. -/
def decodePieces (carry : List UInt8) : List (List UInt8) → List Char × Option Utf8Error
  | [] => ([], if carry.isEmpty then none else some ⟨0, carry, .endOfData⟩)
  | piece :: rest =>
    match decodeFrom 0 (carry ++ piece) with
    | .error e => ([], some e)
    | .ok (text, left) =>
      let later := decodePieces left rest
      (text ++ later.1, later.2)

end TuiTemplate.Text
