import TuiTemplate.Files.TextFile
import TuiTemplate.Yaml.SetOrder
set_option autoImplicit false

namespace TuiTemplate.Yaml

/-- What a key of the document stands for: a scalar, or a collection that is only known to be
one. A set is known by its members. -/
inductive Item where
  | scalar (value : Scalar)
  | set (members : List Scalar)
  | collection

/-- What a document holds at its top. -/
inductive Content where
  | nothing
  | scalar (value : Scalar)
  | collection
  | mapping (entries : List (Scalar × Item))

/-- The text of a set. -/
def setText? (members : List Scalar) : Except ScalarError String := do
  if members.isEmpty then return "set()"
  else
    let shown ← (listedMembers members).mapM Scalar.itemText?
    return "\x7b" ++ ", ".intercalate shown ++ "\x7d"

/-- A way to read documents. It is handed a text piece by piece and may give up on it by its start.
What is wrong with the start of a text is wrong with the text, whatever comes after. -/
structure Loader where
  wrong? : List Char → Option ReadError
  load : List Char → Except ReadError Content
  load_of_wrong : ∀ (start rest : List Char) (e : ReadError), wrong? start = some e →
    load (start ++ rest) = .error e

/-- Why the text of a file gives no document: the loader gives up on it, or the bytes that it asks
for next are those of no text. -/
inductive LoadError where
  | document (error : ReadError)
  | undecodable (error : Text.Utf8Error)
deriving DecidableEq, Repr

namespace Loader

/-- Loads the pieces of a text behind those that have been seen. The loader asks for a piece only if
nothing is wrong with the text so far. -/
def loadPieces (loader : Loader) (broken : Option Text.Utf8Error) (seen : List Char) :
    List (List Char) → Except LoadError Content
  | [] =>
    match broken with
    | some e => .error (.undecodable e)
    | none => (loader.load seen).mapError .document
  | piece :: rest =>
    match loader.wrong? (seen ++ piece) with
    | some e => .error (.document e)
    | none => loadPieces loader broken (seen ++ piece) rest

def loadFile (loader : Loader) (file : TextFile) : Except LoadError Content :=
  loader.loadPieces file.broken [] file.pieces

end Loader

end TuiTemplate.Yaml
