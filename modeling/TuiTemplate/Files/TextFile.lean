import TuiTemplate.Files.Disk
import TuiTemplate.Text.Lines
import TuiTemplate.Text.Utf8
set_option autoImplicit false

namespace TuiTemplate

open Text

/-- The pieces of a list. All but the last are of the same size. -/
def piecesOf {α : Type} (size : Nat) : Nat → List α → List (List α)
  | 0, _ => []
  | _, [] => []
  | bound + 1, xs => xs.take size :: piecesOf size bound (xs.drop size)

/-- A file as it is read for its text: the pieces that arrive one after another, and what is wrong
with the bytes after them, if these are the bytes of no text. -/
structure TextFile where
  pieces : List (List Char)
  broken : Option Utf8Error
deriving DecidableEq, Repr

namespace TextFile

/-- The number of bytes that are decoded at once. -/
def chunkSize : Nat := 8192

/-- The number of characters that are asked for at once. -/
def requestSize : Nat := 4096

/-- The characters that a decoded text gives while more of it is to come. A carriage return at its
end may belong to a line feed. -/
def given (text : List Char) : List Char :=
  unifyNewlineChars (if text.getLast? = some '\r' then text.dropLast else text)

/-- Bytes are decoded as they are asked for, so what comes before undecodable ones arrives. A request
that needs those gets nothing. -/
def ofBytes (bytes : Bytes) : TextFile :=
  match decodePieces [] (piecesOf chunkSize (bytes.length + 1) bytes) with
  | (text, none) =>
    let text := unifyNewlineChars text
    ⟨piecesOf requestSize (text.length + 1) text, none⟩
  | (text, some e) =>
    let text := given text
    ⟨(piecesOf requestSize (text.length + 1) text).filter (·.length = requestSize), some e⟩

end TextFile

end TuiTemplate
