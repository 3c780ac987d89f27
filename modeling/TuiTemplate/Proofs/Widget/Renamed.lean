import Mathlib.Data.List.Forall2
import TuiTemplate.Proofs.Widget.Node
import TuiTemplate.Proofs.Widget.Walk

set_option autoImplicit false

namespace TuiTemplate

/-- The fault with the kinds that it tells of under other names. -/
def TemplateFault.rename (f : String → String) : TemplateFault → TemplateFault
  | .other message => .other message
  | .shape message => .shape message
  | .definition message => .definition message
  | .noRoot message => .noRoot message
  | .manyRoots roots => .manyRoots (roots.map f)
  | .indentation expected => .indentation expected
  | .notDeclaration => .notDeclaration
  | .notInBlock => .notInBlock
  | .lateAttribute => .lateAttribute
  | .childUnderLeaf kind => .childUnderLeaf (f kind)
  | .rootNotContainer kind => .rootNotContainer (f kind)
  | .unknownKind name => .unknownKind (f name)
  | .unknownAttribute kind key value => .unknownAttribute (f kind) key value
  | .invalidValue kind key value allowed => .invalidValue (f kind) key value allowed

theorem TemplateFault.rename_id (fault : TemplateFault) : fault.rename id = fault := by
  cases fault with
  | manyRoots roots => exact congrArg manyRoots (List.map_id roots)
  | _ => rfl

/-- A refusal to set an attribute tells the kind of the widget, and in nothing else depends on
it. -/
theorem Head.setAttribute_rename_error {h : Head} {key value : String} {line : Option Int}
    {reason : TemplateError} (refused : h.setAttribute key value line = .error reason)
    (f : String → String) (later : Option Int) :
    Head.setAttribute { h with kind := f h.kind } key value later =
      .error ⟨later, reason.text, reason.fault.rename f⟩ := by
  unfold setAttribute at refused ⊢
  have same : Head.spec? { h with kind := f h.kind } key = h.spec? key := rfl
  rw [same]
  cases known : h.spec? key with
  | none =>
      rw [known] at refused
      cases refused
      rfl
  | some spec =>
      simp only [known] at refused ⊢
      split at refused
      · cases refused
      · next forbidden =>
        cases refused
        rw [if_neg forbidden]
        rfl

namespace Node

/-- The same tree with the declared widgets under other names. The children that a factory made
come first and keep theirs. -/
inductive Renamed (registry : Registry) (f : String → String) : Node → Node → Prop where
  | intro {n other made : Node} {declared others : List Node} (known : registry.Makes n.kind made)
      (children : n.children = made.children ++ declared)
      (shape : other = (n.withKind (f n.kind)).withChildren (made.children ++ others))
      (below : List.Forall₂ (Renamed registry f) declared others) : Renamed registry f n other

namespace Renamed

variable {registry : Registry} {f : String → String} {n other : Node}

theorem head_eq (renamed : Renamed registry f n other) :
    other.head = { n.head with kind := f n.kind } := by
  obtain ⟨-, -, rfl, -⟩ := renamed
  cases n <;> rfl

theorem kind_eq (renamed : Renamed registry f n other) : other.kind = f n.kind := by
  rw [kind, renamed.head_eq]

theorem fresh {kind : String} {made : Node} (known : registry.Makes kind made) :
    Renamed registry f (made.withKind kind) (made.withKind (f kind)) := by
  have children : (made.withKind kind).children = made.children ++ [] := by
    rw [children_withKind, List.append_nil]
  have shape : made.withKind (f kind) =
      ((made.withKind kind).withKind (f (made.withKind kind).kind)).withChildren
        (made.children ++ []) := by
    rw [kind_withKind, List.append_nil]
    cases made <;> rfl
  exact .intro (by rwa [kind_withKind]) children shape .nil

theorem set (renamed : Renamed registry f n other) {key value : String} {line : Option Int}
    {grown : Node} (accepted : n.acceptAttribute key value line = .ok grown)
    (later : Option Int) :
    ∃ otherGrown, other.acceptAttribute key value later = .ok otherGrown ∧
      Renamed registry f grown otherGrown := by
  obtain ⟨allowed, rfl⟩ := acceptAttribute_eq_ok_iff.mp accepted
  have same : other.head.Allows key value ↔ n.head.Allows key value := by
    rw [renamed.head_eq]
    rfl
  refine ⟨_, acceptAttribute_eq_ok_iff.mpr ⟨same.mpr allowed, rfl⟩, ?_⟩
  have explicit : other.explicit = n.explicit := by rw [Node.explicit, renamed.head_eq]; rfl
  obtain ⟨known, children, rfl, below⟩ := renamed
  refine .intro (by rwa [kind_withExplicit]) (by rwa [children_withExplicit]) ?_ below
  rw [explicit]
  cases n <;> rfl

theorem set_refused (renamed : Renamed registry f n other) {key value : String}
    {line : Option Int} {reason : TemplateError}
    (refused : n.acceptAttribute key value line = .error reason) (later : Option Int) :
    other.acceptAttribute key value later =
      .error ⟨later, reason.text, reason.fault.rename f⟩ := by
  unfold acceptAttribute at refused ⊢
  cases failed : n.head.setAttribute key value line with
  | ok head =>
      rw [failed] at refused
      cases refused
  | error found =>
      rw [failed] at refused
      cases refused
      rw [renamed.head_eq]
      exact congrArg (Except.map other.withHead) (Head.setAttribute_rename_error failed f later)

theorem attach (renamed : Renamed registry f n other) {child otherChild grown : Node}
    (childRenamed : Renamed registry f child otherChild) {line : Option Int}
    (accepted : n.acceptChild child line = .ok grown) (later : Option Int) :
    ∃ otherGrown, other.acceptChild otherChild later = .ok otherGrown ∧
      Renamed registry f grown otherGrown := by
  obtain ⟨known, children, rfl, below⟩ := renamed
  cases n with
  | container head axis old =>
      cases accepted
      have longer := List.rel_append below (List.Forall₂.cons childRenamed .nil)
      refine ⟨_, rfl, .intro known ?_ ?_ longer⟩
      · rw [← List.append_assoc, ← children]
        rfl
      · rw [← List.append_assoc]
        rfl
  | leaf head content => cases accepted
  | inert head =>
      cases accepted
      exact ⟨_, rfl, .intro known children rfl below⟩

theorem attach_refused (renamed : Renamed registry f n other) {child otherChild : Node}
    (childRenamed : Renamed registry f child otherChild) {line : Option Int}
    {reason : TemplateError} (refused : n.acceptChild child line = .error reason)
    (later : Option Int) :
    other.acceptChild otherChild later =
      .error ⟨later, some (f child.kind ++ ":"), reason.fault.rename f⟩ := by
  obtain ⟨known, children, rfl, below⟩ := renamed
  cases n with
  | container head axis old => cases refused
  | leaf head content =>
      cases refused
      rw [← childRenamed.kind_eq]
      rfl
  | inert head => cases refused

end Renamed

/-- Under the same names it is the same tree. -/
theorem Renamed.eq_of_id {registry : Registry} {n other : Node}
    (renamed : Renamed registry id n other) : other = n := by
  induction n using children_induction generalizing other with
  | step n ih =>
      cases renamed with
      | @intro _ _ made declared others known children shape below =>
          have each : ∀ child ∈ declared, ∀ {other}, Renamed registry id child other →
              other = child := by
            intro child inside other
            exact ih child (by rw [children]; exact List.mem_append_right _ inside)
          have same : List.Forall₂ Eq declared others :=
            ((List.forall₂_and_left _ _).mpr ⟨each, below⟩).imp fun _ _ both => (both.1 both.2).symm
          rw [List.forall₂_eq_eq_eq] at same
          rw [shape, ← same, ← children]
          cases n <;> rfl

end Node

end TuiTemplate
