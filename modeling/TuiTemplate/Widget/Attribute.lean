import TuiTemplate.OrderedMap
import TuiTemplate.Failure
set_option autoImplicit false

namespace TuiTemplate

abbrev Attributes := OrderedMap String

/-- An attribute that widgets of some class accept. Without choices any text is allowed. -/
structure AttributeSpec where
  name : String
  choices : Option (List String) := none
  default : Option String := none
deriving DecidableEq, Repr

def AttributeSpec.allows (spec : AttributeSpec) (value : String) : Bool :=
  match spec.choices with
  | none => true
  | some allowed => allowed.contains value

/-- What every widget has, whatever its class: the kind it is known by, the attributes it
accepts, and those that were set, in the order of their first setting. -/
structure Head where
  className : String
  kind : String
  specs : List AttributeSpec
  explicit : Attributes := {}
deriving DecidableEq, Repr

namespace Head

def spec? (h : Head) (key : String) : Option AttributeSpec :=
  h.specs.find? fun spec => spec.name == key

def defaults (h : Head) : Attributes :=
  .ofList (h.specs.filterMap fun spec => spec.default.map fun value => (spec.name, value))

/-- The value of every attribute that has one: the defaults, in the order of the class, with
those that were set on top. -/
def attributes (h : Head) : Attributes := h.defaults.update h.explicit

/-- Setting is refused for a key that the class does not know, and for a value outside the
choices of the key. -/
def setAttribute (h : Head) (key value : String) (line : Option Int) :
    Except TemplateError Head :=
  match h.spec? key with
  | none => .error ⟨line, some (key ++ ": " ++ value), .unknownAttribute h.kind key value⟩
  | some spec =>
    if spec.allows value then .ok { h with explicit := h.explicit.insert key value }
    else
      .error ⟨line, some (key ++ ": " ++ value),
        .invalidValue h.kind key value (spec.choices.getD [])⟩

end Head

end TuiTemplate
