import TuiTemplate.Proofs.Widget.Grown

set_option autoImplicit false

namespace TuiTemplate

/-- A widget that differs from the one its factory made in its name, in attributes that its class
allows and in children. What the factory set comes first among its attributes. -/
structure Assembly (registry : Registry) (made node : Node) : Prop where
  known : registry.Makes node.kind made
  shape : node =
    ((made.withKind node.kind).withExplicit node.explicit).withChildren node.children
  distinct : node.explicit.keys.Nodup
  kept : made.explicit.keys <+: node.explicit.keys
  allowed : ∀ entry ∈ node.explicit.entries, made.head.Allows entry.1 entry.2

inductive Assembled (registry : Registry) : Node → Prop where
  | intro {made node : Node} (here : Assembly registry made node)
      (below : ∀ child ∈ node.children, Assembled registry child) : Assembled registry node

/-- The factories of the registry make widgets without children, and what they set on them is set
once and allowed. -/
structure Registry.MakesAllowed (r : Registry) : Prop where
  childless : ∀ kind made, r.Makes kind made → made.children = []
  distinct : ∀ kind made, r.Makes kind made → made.explicit.keys.Nodup
  allowed : ∀ kind made, r.Makes kind made →
    ∀ entry ∈ made.explicit.entries, made.head.Allows entry.1 entry.2

namespace Assembly

variable {registry : Registry} {made node : Node}

theorem allows_iff (assembly : Assembly registry made node) {key value : String} :
    node.head.Allows key value ↔ made.head.Allows key value := by
  rw [assembly.shape, Node.head_withChildren, Node.allows_withExplicit, Node.allows_withKind]

theorem fresh (makes : registry.MakesAllowed) {kind : String} (known : registry.Makes kind made) :
    Assembly registry made (made.withKind kind) where
  known := by rwa [Node.kind_withKind]
  shape := by rw [Node.kind_withKind, Node.withExplicit_explicit, Node.withChildren_children]
  distinct := by
    rw [Node.explicit_withKind]
    exact makes.distinct kind made known
  kept := by
    rewrite [Node.explicit_withKind]
    exact List.prefix_rfl
  allowed := by
    rw [Node.explicit_withKind]
    exact makes.allowed kind made known

theorem set (assembly : Assembly registry made node) {key value : String}
    (allowed : node.head.Allows key value) :
    Assembly registry made (node.withExplicit (node.explicit.insert key value)) where
  known := by
    rw [Node.kind_withExplicit]
    exact assembly.known
  shape := by
    have shape := congrArg (Node.withExplicit (node.explicit.insert key value)) assembly.shape
    rw [Node.withExplicit_withChildren, Node.withExplicit_withExplicit] at shape
    rwa [Node.explicit_withExplicit, Node.kind_withExplicit, Node.children_withExplicit]
  distinct := by
    rw [Node.explicit_withExplicit]
    exact OrderedMap.nodup_keys_insert assembly.distinct key value
  kept := by
    rw [Node.explicit_withExplicit]
    exact assembly.kept.trans (OrderedMap.keys_prefix_insert _ _ _)
  allowed := by
    rw [Node.explicit_withExplicit]
    exact OrderedMap.forall_entries_insert (P := made.head.Allows) assembly.allowed
      (assembly.allows_iff.mp allowed)

theorem withChildren (assembly : Assembly registry made node) (children : List Node) :
    Assembly registry made (node.withChildren children) where
  known := by
    rw [Node.kind_withChildren]
    exact assembly.known
  shape := by
    have shape := congrArg (Node.withChildren children) assembly.shape
    rw [Node.withChildren_withChildren] at shape
    rw [Node.kind_withChildren, Node.explicit_withChildren]
    exact Node.eq_withChildren_children shape
  distinct := by
    rw [Node.explicit_withChildren]
    exact assembly.distinct
  kept := by
    rw [Node.explicit_withChildren]
    exact assembly.kept
  allowed := by
    rw [Node.explicit_withChildren]
    exact assembly.allowed

end Assembly

namespace Assembled

variable {registry : Registry} {node : Node}

theorem fresh (makes : registry.MakesAllowed) {kind : String} {made : Node}
    (known : registry.Makes kind made) : Assembled registry (made.withKind kind) := by
  refine .intro (.fresh makes known) ?_
  rw [Node.children_withKind, makes.childless kind made known]
  exact List.forall_mem_nil _

theorem set (assembled : Assembled registry node) {key value : String} {line : Option Int}
    {grown : Node} (accepted : node.acceptAttribute key value line = .ok grown) :
    Assembled registry grown := by
  obtain ⟨allowed, rfl⟩ := Node.acceptAttribute_eq_ok_iff.mp accepted
  obtain ⟨here, below⟩ := assembled
  refine .intro (here.set allowed) ?_
  rwa [Node.children_withExplicit]

theorem attach (assembled : Assembled registry node) {child grown : Node} {line : Option Int}
    (below : Assembled registry child) (accepted : node.acceptChild child line = .ok grown) :
    Assembled registry grown := by
  obtain rfl := Node.eq_withChildren_of_acceptChild accepted
  obtain ⟨here, others⟩ := assembled
  refine .intro (here.withChildren _) ?_
  intro other inside
  rcases List.mem_append.mp (Node.mem_children_withChildren inside) with old | new
  · exact others other old
  · rwa [List.mem_singleton.mp new]

theorem of_mem_subtrees (assembled : Assembled registry node) :
    ∀ inner ∈ node.subtrees, ∃ made, Assembly registry made inner := by
  induction assembled with
  | @intro made node here below ih =>
      exact Node.forall_mem_subtrees_iff.mpr ⟨⟨made, here⟩, ih⟩

end Assembled

/-- A tree that grows from what the registry makes is assembled. -/
theorem Node.Grown.assembled {registry : Registry} (makes : registry.MakesAllowed) {n : Node}
    (grown : n.Grown registry.Resolves) : Assembled registry n := by
  induction grown with
  | fresh resolved =>
      obtain ⟨kind, line, resolved⟩ := resolved
      obtain ⟨made, known, rfl⟩ := Registry.resolve_eq_ok_iff.mp resolved
      exact .fresh makes known
  | set before accepted ih => exact ih.set accepted
  | attach before below accepted ih childIh => exact ih.attach childIh accepted

end TuiTemplate
