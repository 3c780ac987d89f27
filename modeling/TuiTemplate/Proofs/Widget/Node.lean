import TuiTemplate.Proofs.OrderedMap
import TuiTemplate.Widget.Registry

set_option autoImplicit false

namespace TuiTemplate

namespace Head

def Allows (h : Head) (key value : String) : Prop :=
  ∃ spec, h.spec? key = some spec ∧ spec.allows value = true

theorem setAttribute_eq_ok_iff {h next : Head} {key value : String} {line : Option Int} :
    h.setAttribute key value line = .ok next ↔
      h.Allows key value ∧ next = { h with explicit := h.explicit.insert key value } := by
  unfold setAttribute Allows
  cases h.spec? key with
  | none => simp
  | some spec =>
      cases allowed : spec.allows value with
      | false => simp [allowed]
      | true =>
          simp only [allowed, ↓reduceIte, Except.ok.injEq, Option.some.injEq, exists_eq_left',
            true_and]
          exact eq_comm

/-- Setting is refused only for its key or for its value, and the refusal tells which. -/
theorem setAttribute_eq_error {h : Head} {key value : String} {line : Option Int}
    {reason : TemplateError} (refused : h.setAttribute key value line = .error reason) :
    reason.line = line ∧ reason.text = some (key ++ ": " ++ value) ∧
      (reason.fault = .unknownAttribute h.kind key value ∨
        ∃ allowed, reason.fault = .invalidValue h.kind key value allowed) := by
  unfold setAttribute at refused
  cases known : h.spec? key with
  | none =>
      rw [known] at refused
      cases refused
      exact ⟨rfl, rfl, .inl rfl⟩
  | some spec =>
      simp only [known] at refused
      split at refused
      · cases refused
      · cases refused
        exact ⟨rfl, rfl, .inr ⟨_, rfl⟩⟩

end Head

namespace Node

/-- A container with these children and no others. Other widgets stay as they are. -/
def withChildren (children : List Node) : Node → Node
  | .container head axis _ => .container head axis children
  | .leaf head content => .leaf head content
  | .inert head => .inert head

section withChildren

variable (n : Node) (children : List Node)

@[simp] theorem withChildren_withChildren (other : List Node) :
    (n.withChildren other).withChildren children = n.withChildren children := by
  cases n <;> rfl

@[simp] theorem withChildren_children : n.withChildren n.children = n := by
  cases n <;> rfl

@[simp] theorem head_withChildren : (n.withChildren children).head = n.head := by
  cases n <;> rfl

@[simp] theorem kind_withChildren : (n.withChildren children).kind = n.kind := by
  cases n <;> rfl

@[simp] theorem explicit_withChildren : (n.withChildren children).explicit = n.explicit := by
  cases n <;> rfl

@[simp] theorem isContainer_withChildren :
    (n.withChildren children).isContainer = n.isContainer := by
  cases n <;> rfl

theorem children_withChildren {n : Node} (container : n.isContainer = true)
    (children : List Node) : (n.withChildren children).children = children := by
  cases n with
  | container head axis old => rfl
  | leaf head content => cases container
  | inert head => cases container

theorem children_of_isContainer_eq_false {n : Node} (noContainer : n.isContainer = false) :
    n.children = [] := by
  cases n with
  | container head axis children => cases noContainer
  | leaf head content => rfl
  | inert head => rfl

theorem mem_children_withChildren {n child : Node} {children : List Node}
    (inside : child ∈ (n.withChildren children).children) : child ∈ children := by
  cases n with
  | container head axis old => exact inside
  | leaf head content => cases inside
  | inert head => cases inside

/-- Whatever children a widget was given, it has those that it shows. -/
theorem eq_withChildren_children {n shape : Node} {children : List Node}
    (same : n = shape.withChildren children) : n = shape.withChildren n.children := by
  subst same
  cases shape <;> rfl

end withChildren

def withExplicit (explicit : Attributes) (n : Node) : Node :=
  n.withHead { n.head with explicit := explicit }

section withExplicit

variable (n : Node) (kind : String) (explicit : Attributes)

@[simp] theorem kind_withKind : (n.withKind kind).kind = kind := by
  cases n <;> rfl

@[simp] theorem explicit_withKind : (n.withKind kind).explicit = n.explicit := by
  cases n <;> rfl

@[simp] theorem children_withKind : (n.withKind kind).children = n.children := by
  cases n <;> rfl

@[simp] theorem kind_withExplicit : (n.withExplicit explicit).kind = n.kind := by
  cases n <;> rfl

@[simp] theorem explicit_withExplicit : (n.withExplicit explicit).explicit = explicit := by
  cases n <;> rfl

@[simp] theorem children_withExplicit : (n.withExplicit explicit).children = n.children := by
  cases n <;> rfl

@[simp] theorem withExplicit_explicit : n.withExplicit n.explicit = n := by
  cases n <;> rfl

@[simp] theorem withExplicit_withExplicit (other : Attributes) :
    (n.withExplicit other).withExplicit explicit = n.withExplicit explicit := by
  cases n <;> rfl

@[simp] theorem withExplicit_withChildren (children : List Node) :
    (n.withChildren children).withExplicit explicit =
      (n.withExplicit explicit).withChildren children := by
  cases n <;> rfl

@[simp] theorem allows_withKind (key value : String) :
    (n.withKind kind).head.Allows key value ↔ n.head.Allows key value := by
  cases n <;> rfl

@[simp] theorem allows_withExplicit (key value : String) :
    (n.withExplicit explicit).head.Allows key value ↔ n.head.Allows key value := by
  cases n <;> rfl

@[simp] theorem isContainer_withKind : (n.withKind kind).isContainer = n.isContainer := by
  cases n <;> rfl

@[simp] theorem isContainer_withExplicit :
    (n.withExplicit explicit).isContainer = n.isContainer := by
  cases n <;> rfl

end withExplicit

/-- Whether a widget is one of the class of another: they differ in their names, in what is set on
them and in their children, and in nothing else. -/
def OfClass (n prototype : Node) : Prop :=
  n = ((prototype.withKind n.kind).withExplicit n.explicit).withChildren n.children

theorem OfClass.isContainer_eq {n prototype : Node} (same : n.OfClass prototype) :
    n.isContainer = prototype.isContainer := by
  rw [same, isContainer_withChildren, isContainer_withExplicit, isContainer_withKind]

/-- An attribute changes what is set on a widget and nothing else. -/
theorem acceptAttribute_eq_ok_iff {n next : Node} {key value : String} {line : Option Int} :
    n.acceptAttribute key value line = .ok next ↔
      n.head.Allows key value ∧ next = n.withExplicit (n.explicit.insert key value) := by
  unfold acceptAttribute
  cases set : n.head.setAttribute key value line with
  | error reason =>
      simp only [Except.map, reduceCtorEq, false_iff, not_and]
      intro allowed
      rw [Head.setAttribute_eq_ok_iff.mpr ⟨allowed, rfl⟩] at set
      cases set
  | ok head =>
      obtain ⟨allowed, rfl⟩ := Head.setAttribute_eq_ok_iff.mp set
      simp [Except.map, allowed, withExplicit, explicit, eq_comm]

theorem acceptAttribute_eq_error {n : Node} {key value : String} {line : Option Int}
    {reason : TemplateError} (refused : n.acceptAttribute key value line = .error reason) :
    reason.line = line ∧ reason.text = some (key ++ ": " ++ value) ∧
      (reason.fault = .unknownAttribute n.kind key value ∨
        ∃ allowed, reason.fault = .invalidValue n.kind key value allowed) := by
  unfold acceptAttribute at refused
  cases set : n.head.setAttribute key value line with
  | ok head =>
      rw [set] at refused
      cases refused
  | error found =>
      rw [set] at refused
      cases refused
      exact Head.setAttribute_eq_error set

/-- Only a leaf refuses a child. -/
theorem acceptChild_eq_error {n child : Node} {line : Option Int} {reason : TemplateError}
    (refused : n.acceptChild child line = .error reason) :
    reason.line = line ∧ reason.text = some (child.kind ++ ":") ∧
      reason.fault = .childUnderLeaf n.kind := by
  cases n with
  | container head axis children => cases refused
  | leaf head content =>
      cases refused
      exact ⟨rfl, rfl, rfl⟩
  | inert head => cases refused

/-- Whether a widget takes a child depends neither on the child nor on the line. -/
theorem exists_acceptChild {n child grown : Node} {line : Option Int}
    (accepted : n.acceptChild child line = .ok grown) (other : Node) (later : Option Int) :
    ∃ again, n.acceptChild other later = .ok again := by
  cases n with
  | container head axis children => exact ⟨_, rfl⟩
  | leaf head content => cases accepted
  | inert head => exact ⟨_, rfl⟩

theorem acceptChild_of_isContainer {n : Node} (container : n.isContainer = true) (child : Node)
    (line : Option Int) :
    n.acceptChild child line = .ok (n.withChildren (n.children ++ [child])) := by
  cases n with
  | container head axis children => rfl
  | leaf head content => cases container
  | inert head => cases container

/-- A leaf takes no child, and an inert widget, which takes any, does not keep it. -/
theorem eq_withChildren_of_acceptChild {n child next : Node} {line : Option Int}
    (accepted : n.acceptChild child line = .ok next) :
    next = n.withChildren (n.children ++ [child]) := by
  cases n with
  | container head axis children =>
      cases accepted
      rfl
  | leaf head content => cases accepted
  | inert head =>
      cases accepted
      rfl

/-- A widget that is neither a container nor a leaf. -/
def IsInert : Node → Prop
  | .container _ _ _ => False
  | .leaf _ _ => False
  | .inert _ => True

@[simp] theorem isInert_withKind (n : Node) (kind : String) :
    (n.withKind kind).IsInert ↔ n.IsInert := by
  cases n <;> rfl

@[simp] theorem isInert_withExplicit (n : Node) (explicit : Attributes) :
    (n.withExplicit explicit).IsInert ↔ n.IsInert := by
  cases n <;> rfl

@[simp] theorem isInert_withChildren (n : Node) (children : List Node) :
    (n.withChildren children).IsInert ↔ n.IsInert := by
  cases n <;> rfl

theorem isContainer_of_acceptChild {n child next : Node} {line : Option Int}
    (active : ¬ n.IsInert) (accepted : n.acceptChild child line = .ok next) :
    n.isContainer = true := by
  cases n with
  | container head axis children => rfl
  | leaf head content => cases accepted
  | inert head => exact absurd trivial active

end Node

/-- The registry knows the kind, and the factory of the kind makes this widget. -/
def Registry.Makes (r : Registry) (kind : String) (made : Node) : Prop :=
  ∃ registration, r.get? kind = some registration ∧ registration.factory.build = .ok made

theorem Registry.resolve_eq_ok_iff {r : Registry} {kind : String} {line : Option Int}
    {node : Node} :
    r.resolve kind line = .ok node ↔ ∃ made, r.Makes kind made ∧ node = made.withKind kind := by
  simp only [Registry.resolve, Registry.Makes]
  cases r.get? kind with
  | none => simp
  | some registration =>
      cases built : registration.factory.build with
      | error fault => simp [built]
      | ok made => simp [built, eq_comm]

theorem Registry.kind_of_resolve {r : Registry} {kind : String} {line : Option Int} {node : Node}
    (resolved : r.resolve kind line = .ok node) : node.kind = kind := by
  obtain ⟨made, -, rfl⟩ := Registry.resolve_eq_ok_iff.mp resolved
  exact Node.kind_withKind made kind

/-- A kind gives no widget if it is not registered or its factory breaks down. -/
theorem Registry.resolve_eq_error {r : Registry} {kind : String} {line : Option Int}
    {reason : ResolveError} (failed : r.resolve kind line = .error reason) :
    reason = .unknown ⟨line, some kind, .unknownKind kind⟩ ∨
      ∃ registration fault, r.get? kind = some registration ∧
        registration.factory.build = .error fault ∧ reason = .factory fault := by
  unfold Registry.resolve at failed
  cases found : r.get? kind with
  | none =>
      rw [found] at failed
      cases failed
      exact .inl rfl
  | some registration =>
      simp only [found] at failed
      cases built : registration.factory.build with
      | ok made =>
          rw [built] at failed
          cases failed
      | error fault =>
          rw [built] at failed
          cases failed
          exact .inr ⟨registration, fault, rfl, built, rfl⟩

def Registry.Builds (r : Registry) : Prop :=
  ∀ kind registration, r.get? kind = some registration →
    ∃ made, registration.factory.build = .ok made

/-- The factories of the registry make containers without children and leaves. -/
structure Registry.MakesFresh (r : Registry) : Prop where
  childless : ∀ kind made, r.Makes kind made → made.children = []
  active : ∀ kind made, r.Makes kind made → ¬ made.IsInert

/-- What is made is made by the factory of a registration. -/
theorem Registry.Makes.exists_mem {r : Registry} {kind : String} {made : Node}
    (known : r.Makes kind made) :
    ∃ entry ∈ r.registrations.entries, entry.2.factory.build = .ok made := by
  obtain ⟨registration, found, built⟩ := known
  exact ⟨(kind, registration), OrderedMap.mem_of_get?_eq_some found, built⟩

/-- The built-in kinds and what is made for them. -/
theorem Registry.builtin_makes_iff {kind : String} {made : Node} :
    Registry.builtin.Makes kind made ↔
      kind = "Layout" ∧ made = layoutWidget ∨ kind = "Paragraph" ∧ made = paragraphWidget := by
  constructor
  · rintro ⟨registration, found, built⟩
    rcases List.mem_cons.mp (OrderedMap.mem_of_get?_eq_some found) with first | later
    · cases first
      cases built
      exact .inl ⟨rfl, rfl⟩
    · cases List.mem_singleton.mp later
      cases built
      exact .inr ⟨rfl, rfl⟩
  · rintro (⟨rfl, rfl⟩ | ⟨rfl, rfl⟩)
    · exact ⟨_, rfl, rfl⟩
    · exact ⟨_, rfl, rfl⟩

theorem Registry.builtin_makes {kind : String} {made : Node}
    (known : Registry.builtin.Makes kind made) : made = layoutWidget ∨ made = paragraphWidget :=
  (Registry.builtin_makes_iff.mp known).imp And.right And.right

theorem Registry.builtin_builds : Registry.builtin.Builds := by
  intro kind registration found
  rcases List.mem_cons.mp (OrderedMap.mem_of_get?_eq_some found) with first | later
  · cases first
    exact ⟨_, rfl⟩
  · cases List.mem_singleton.mp later
    exact ⟨_, rfl⟩

theorem Registry.builtin_makesFresh : Registry.builtin.MakesFresh := by
  constructor
  · intro kind made known
    rcases Registry.builtin_makes known with rfl | rfl <;> rfl
  · intro kind made known
    rcases Registry.builtin_makes known with rfl | rfl <;> exact id

end TuiTemplate
