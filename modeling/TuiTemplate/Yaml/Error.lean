set_option autoImplicit false

namespace TuiTemplate.Yaml

/-- Why a text has no value of its kind: a part of it is refused, no truth value has that name,
there is nothing to take for a digit, it is no date, it is no text at all where a date is expected,
or its number is beyond all bounds. -/
inductive ScalarError where
  | refused (message : String)
  | unknownName
  | noDigits
  | noDate
  | noText
  | beyondBounds
deriving DecidableEq, Repr

def ScalarError.message : ScalarError → String
  | .refused message => message
  | .unknownName => "No truth value has this name"
  | .noDigits => "A number needs digits"
  | .noDate => "A date or a time is expected"
  | .noText => "A text is expected"
  | .beyondBounds => "A number is too large"

/-- Why a document gives no value: it is malformed, or making its values breaks off, as where a
scalar of it has no value of its kind. -/
inductive ReadError where
  | malformed
  | noValue (error : ScalarError)
deriving DecidableEq, Repr

namespace ReadError

def refused (message : String) : ReadError := .noValue (.refused message)

end ReadError

/-- Why reading stops: the document gives no value, or what follows in it is not known yet. -/
inductive Stop where
  | malformed
  | noValue (error : ScalarError)
  | unread
deriving DecidableEq, Repr

namespace Stop

def refused (message : String) : Stop := .noValue (.refused message)

/-- What is wrong with a document by which reading has stopped, as far as that is known. -/
def error? : Stop → Option ReadError
  | .malformed => some .malformed
  | .noValue e => some (.noValue e)
  | .unread => none

end Stop

instance : MonadLift Option (Except ReadError) where
  monadLift value := value.elim (.error .malformed) .ok

/-- Where nothing is found that a text has to hold, it is malformed. -/
def required {α : Type} : Option α → Except Stop α
  | some value => .ok value
  | none => .error .malformed

instance : MonadLift Option (Except Stop) where
  monadLift := required

end TuiTemplate.Yaml
