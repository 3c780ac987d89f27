import TuiTemplate.Log
import TuiTemplate.Widget.Builtin
set_option autoImplicit false

namespace TuiTemplate

/-- A way to make fresh widgets. A factory may say of itself whether what it makes are
containers, and making a widget may break down. -/
structure Factory where
  isContainer : Option Bool
  build : Except Fault Node

namespace Factory

/-- The factory of a class knows the role of its widgets. -/
def ofClass (prototype : Node) : Factory := ⟨some prototype.isContainer, .ok prototype⟩

/-- A plain function tells nothing about what it makes. -/
def ofFunction (prototype : Node) : Factory := ⟨none, .ok prototype⟩

end Factory

structure Registration where
  kind : String
  factory : Factory
  container : Bool
  description : String

/-- The widget kinds that templates may name. -/
structure Registry where
  registrations : OrderedMap Registration := {}

/-- Why a name gave no widget: it is not registered, or its factory broke down. -/
inductive ResolveError where
  | unknown (error : TemplateError)
  | factory (fault : Fault)

namespace Registry

def has (r : Registry) (kind : String) : Bool := r.registrations.contains kind

def get? (r : Registry) (kind : String) : Option Registration := r.registrations.get? kind

/-- Whether a registration makes containers: as the caller states, else as the factory states,
else as a widget shows that the factory makes. -/
def containerFlag (factory : Factory) (container : Option Bool) : Except Fault Bool :=
  match container, factory.isContainer with
  | some flag, _ => .ok flag
  | none, some flag => .ok flag
  | none, none => factory.build.map Node.isContainer

/-- The last registration of a kind wins. -/
def put (r : Registry) (registration : Registration) : Registry :=
  ⟨r.registrations.insert registration.kind registration⟩

/-- Registers a kind. A factory that breaks down when its role is asked for
leaves the registry as it was. -/
def register (r : Registry) (kind : String) (factory : Factory)
    (container : Option Bool := none) (description : String := "") :
    Except Fault Registry :=
  (containerFlag factory container).map fun flag => r.put ⟨kind, factory, flag, description⟩

def unregister (r : Registry) (kind : String) : Bool × Registry :=
  if r.has kind then (true, ⟨r.registrations.erase kind⟩) else (false, r)

/-- What registering leaves in the log. The warning comes even if the factory then breaks
down. -/
def registerLog (r : Registry) (kind : String) (registered : Bool) : List LogRecord :=
  (if r.has kind then
    [⟨.registry, .warning, "Overwriting existing widget registration: " ++ kind⟩]
  else []) ++
  (if registered then [⟨.registry, .debug, "Registered widget kind: " ++ kind⟩] else [])

/-- A fresh widget of a kind, known by the name it was asked for. -/
def resolve (r : Registry) (kind : String) (line : Option Int) : Except ResolveError Node :=
  match r.get? kind with
  | none => .error (.unknown ⟨line, some kind, .unknownKind kind⟩)
  | some registration =>
    match registration.factory.build with
    | .error fault => .error (.factory fault)
    | .ok node => .ok (node.withKind kind)

def isContainer (r : Registry) (kind : String) : Bool :=
  match r.get? kind with
  | some registration => registration.container
  | none => false

/-- The registered kinds in the order of their names. -/
def kinds (r : Registry) : List String :=
  r.registrations.keys.mergeSort fun a b => decide (a ≤ b)

/-- The registrations in the order of the names of their kinds. -/
def list (r : Registry) : List Registration := r.kinds.filterMap r.get?

def builtinKinds : List (Node × String) :=
  [(layoutWidget, "Container splitting its area equally among children"),
   (paragraphWidget, "Text with \x7b\x7bkey\x7d\x7d placeholders")]

/-- The registry with the built-in kinds added. -/
def addBuiltins (r : Registry) : Registry :=
  builtinKinds.foldl
    (fun acc entry =>
      acc.put ⟨entry.1.kind, .ofClass entry.1, entry.1.isContainer, entry.2⟩) r

def addBuiltinsLog (r : Registry) : List LogRecord :=
  builtinKinds.flatMap (fun entry => r.registerLog entry.1.kind true) ++
    [⟨.registry, .debug, "Registered built-in widget kinds"⟩]

def builtin : Registry := addBuiltins {}

end Registry

end TuiTemplate
