import TuiTemplate.Widget.Node

set_option autoImplicit false

namespace TuiTemplate.Node

theorem sizeOf_lt_of_mem_children {n child : Node} (inside : child ∈ n.children) :
    sizeOf child < sizeOf n := by
  cases n with
  | container head axis children =>
      have smaller : sizeOf child < sizeOf children := List.sizeOf_lt_of_mem inside
      simp only [container.sizeOf_spec]
      omega
  | leaf head content => cases inside
  | inert head => cases inside

/-- What holds of a widget if it holds of its children holds of every widget. -/
theorem children_induction {P : Node → Prop} (step : ∀ n, (∀ child ∈ n.children, P child) → P n)
    (n : Node) : P n :=
  step n fun child _ => children_induction step child
termination_by sizeOf n
decreasing_by exact sizeOf_lt_of_mem_children ‹_›

theorem walkAll_eq_flatMap (depth : Nat) (nodes : List Node) :
    walkAll depth nodes = nodes.flatMap (walk depth) := by
  induction nodes with
  | nil => rfl
  | cons child rest ih => rw [walkAll, List.flatMap_cons, ih]

theorem walk_eq_cons (depth : Nat) (n : Node) :
    n.walk depth = (depth, n) :: n.children.flatMap (walk (depth + 1)) := by
  cases n with
  | container head axis nodes => rw [walk, walkAll_eq_flatMap, children]
  | leaf head content => rfl
  | inert head => rfl

def subtrees (n : Node) : List Node := (n.walk 0).map Prod.snd

theorem map_snd_walk (depth : Nat) (n : Node) : (n.walk depth).map Prod.snd = n.subtrees := by
  induction n using children_induction generalizing depth with
  | step n ih =>
      rw [subtrees, walk_eq_cons, walk_eq_cons 0, List.map_cons, List.map_cons, List.map_flatMap,
        List.map_flatMap]
      rw [List.flatMap_def, List.flatMap_def]
      have below : (n.children.map fun child => (child.walk (depth + 1)).map Prod.snd) =
          n.children.map fun child => (child.walk (0 + 1)).map Prod.snd := by
        apply List.map_congr_left
        intro child inside
        rw [ih child inside, ih child inside]
      rw [below]

theorem subtrees_eq_cons (n : Node) : n.subtrees = n :: n.children.flatMap subtrees := by
  rw [subtrees, walk_eq_cons, List.map_cons, List.map_flatMap]
  simp only [map_snd_walk]

theorem forall_mem_subtrees_iff {P : Node → Prop} {n : Node} :
    (∀ inner ∈ n.subtrees, P inner) ↔
      P n ∧ ∀ child ∈ n.children, ∀ inner ∈ child.subtrees, P inner := by
  rw [subtrees_eq_cons, List.forall_mem_cons, List.forall_mem_flatMap]

theorem self_mem_subtrees (n : Node) : n ∈ n.subtrees := by
  rw [subtrees_eq_cons]
  exact List.mem_cons_self

theorem subtrees_subset_of_mem_children {n child : Node} (inside : child ∈ n.children) :
    child.subtrees ⊆ n.subtrees := by
  intro other below
  rw [subtrees_eq_cons n]
  exact List.mem_cons_of_mem n (List.mem_flatMap.mpr ⟨child, inside, below⟩)

def isLeaf : Node → Bool
  | .leaf _ _ => true
  | .container _ _ _ => false
  | .inert _ => false

def leaves (n : Node) : List Node := n.subtrees.filter isLeaf

@[simp] theorem leaves_container (head : Head) (axis : Axis) (nodes : List Node) :
    (container head axis nodes).leaves = nodes.flatMap leaves := by
  rw [leaves, subtrees_eq_cons, List.filter_cons_of_neg Bool.false_ne_true, List.filter_flatMap]
  rfl

end TuiTemplate.Node
