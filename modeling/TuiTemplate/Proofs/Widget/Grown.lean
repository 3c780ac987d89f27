import Mathlib.Data.List.Forall2
import TuiTemplate.Proofs.Widget.Node
import TuiTemplate.Proofs.Widget.Walk

set_option autoImplicit false

namespace TuiTemplate

theorem exists_mem_of_forall₂ {α β : Type} {R : α → β → Prop} {first : List α} {second : List β}
    (related : List.Forall₂ R first second) {b : β} (inside : b ∈ second) :
    ∃ a ∈ first, R a b := by
  induction related with
  | nil => cases inside
  | @cons a other rest others here later ih =>
      rcases List.mem_cons.mp inside with rfl | below
      · exact ⟨a, List.mem_cons_self, here⟩
      · obtain ⟨item, member, relates⟩ := ih below
        exact ⟨item, List.mem_cons_of_mem a member, relates⟩

namespace Node

/-- A tree as it comes to be from fresh widgets, which are given attributes and children. -/
inductive Grown (Fresh : Node → Prop) : Node → Prop where
  | fresh {n : Node} (made : Fresh n) : Grown Fresh n
  | set {n grown : Node} {key value : String} {line : Option Int} (before : Grown Fresh n)
      (accepted : n.acceptAttribute key value line = .ok grown) : Grown Fresh grown
  | attach {n child grown : Node} {line : Option Int} (before : Grown Fresh n)
      (below : Grown Fresh child) (accepted : n.acceptChild child line = .ok grown) :
      Grown Fresh grown

/-- Two trees that have the same kinds, the same attributes set and the same children, in the same
order. -/
inductive Alike : Node → Node → Prop where
  | intro {n other : Node} (kind : n.kind = other.kind) (explicit : n.explicit = other.explicit)
      (children : List.Forall₂ Alike n.children other.children) : Alike n other

theorem alike_refl (n : Node) : n.Alike n := by
  induction n using children_induction with
  | step n ih => exact .intro rfl rfl (List.forall₂_same.mpr ih)

/-- What is said of the kind and of the attributes of every widget in a tree is said of the trees
that are like it. -/
theorem Alike.forall_subtrees {P : String → Attributes → Prop} {n other : Node}
    (alike : n.Alike other) (holds : ∀ inner ∈ n.subtrees, P inner.kind inner.explicit) :
    ∀ inner ∈ other.subtrees, P inner.kind inner.explicit := by
  induction n using children_induction generalizing other with
  | step n ih =>
      obtain ⟨kind, explicit, children⟩ := alike
      obtain ⟨here, below⟩ := forall_mem_subtrees_iff.mp holds
      refine forall_mem_subtrees_iff.mpr ⟨kind ▸ explicit ▸ here, fun child inside => ?_⟩
      obtain ⟨first, member, same⟩ := exists_mem_of_forall₂ children inside
      exact ih first member same (below first member)

end Node

def Registry.Resolves (r : Registry) (n : Node) : Prop := ∃ kind line, r.resolve kind line = .ok n

end TuiTemplate
