import TuiTemplate.Proofs.Template.Reading
import TuiTemplate.Proofs.Template.Word
import TuiTemplate.Proofs.Widget.Assembly

set_option autoImplicit false

namespace TuiTemplate

open Grammar

/-- Whether a line of some template could set the attribute of the widget to the value. -/
def Node.Settable (n : Node) (key value : String) : Prop :=
  ∃ source, ∃ line ∈ scan source, Sets line.text key value ∧
    ∃ next, n.acceptAttribute key value (some line.number) = .ok next

theorem Node.Settable.isSetting {n : Node} {key value : String} (settable : n.Settable key value) :
    IsSetting key value ∧ n.head.Allows key value := by
  obtain ⟨source, line, inside, sets, next, accepted⟩ := settable
  exact ⟨(isName_of_mem_scan inside).of_sets sets, (Node.acceptAttribute_eq_ok_iff.mp accepted).1⟩

/-- The factories of the registry make widgets without children. What they set on them, each key
once, is what a template could set. -/
structure Registry.MakesSettable (r : Registry) : Prop where
  childless : ∀ kind made, r.Makes kind made → made.children = []
  distinct : ∀ kind made, r.Makes kind made → made.explicit.keys.Nodup
  settable : ∀ kind made, r.Makes kind made →
    ∀ entry ∈ made.explicit.entries, made.Settable entry.1 entry.2

theorem Registry.MakesFresh.makesSettable {registry : Registry} (fresh : registry.MakesFresh)
    (bare : ∀ kind made, registry.Makes kind made → made.explicit = {}) :
    registry.MakesSettable where
  childless := fresh.childless
  distinct := by
    intro kind made known
    rw [bare kind made known]
    exact List.nodup_nil
  settable := by
    intro kind made known
    rw [bare kind made known]
    exact List.forall_mem_nil _

/-- A widget that differs from the one its factory made in its name, in attributes and in
children, each of which a template can give it. -/
structure Expressed (registry : Registry) (made node : Node) : Prop where
  known : registry.Makes node.kind made
  name : IsName node.kind
  shape : node =
    ((made.withKind node.kind).withExplicit node.explicit).withChildren node.children
  distinct : node.explicit.keys.Nodup
  kept : made.explicit.keys <+: node.explicit.keys
  settings : ∀ entry ∈ node.explicit.entries,
    IsSetting entry.1 entry.2 ∧ made.head.Allows entry.1 entry.2

inductive Expressible (registry : Registry) : Node → Prop where
  | intro {made node : Node} (here : Expressed registry made node)
      (below : ∀ child ∈ node.children, Expressible registry child) : Expressible registry node

/-- A widget whose name and attributes lines can spell. -/
def Node.IsSpelled (n : Node) : Prop :=
  IsName n.kind ∧ ∀ entry ∈ n.explicit.entries, IsSetting entry.1 entry.2

theorem expressed_iff {registry : Registry} {made node : Node} :
    Expressed registry made node ↔ Assembly registry made node ∧ node.IsSpelled := by
  constructor
  · intro expressed
    refine ⟨⟨expressed.known, expressed.shape, expressed.distinct, expressed.kept, ?_⟩,
      expressed.name, ?_⟩
    · exact fun entry inside => (expressed.settings entry inside).2
    · exact fun entry inside => (expressed.settings entry inside).1
  · rintro ⟨assembly, name, settings⟩
    refine ⟨assembly.known, name, assembly.shape, assembly.distinct, assembly.kept, ?_⟩
    exact fun entry inside => ⟨settings entry inside, assembly.allowed entry inside⟩

/-- A tree can be spelled as a whole if each of its widgets can. -/
theorem expressible_iff {registry : Registry} {node : Node} :
    Expressible registry node ↔
      Assembled registry node ∧ ∀ inner ∈ node.subtrees, inner.IsSpelled := by
  constructor
  · intro expressible
    induction expressible with
    | @intro made node here below ih =>
        obtain ⟨assembly, spelled⟩ := expressed_iff.mp here
        exact ⟨.intro assembly fun child inside => (ih child inside).1,
          Node.forall_mem_subtrees_iff.mpr ⟨spelled, fun child inside => (ih child inside).2⟩⟩
  · rintro ⟨assembled, spelled⟩
    induction assembled with
    | @intro made node here below ih =>
        obtain ⟨spelledHere, spelledBelow⟩ := Node.forall_mem_subtrees_iff.mp spelled
        exact .intro (expressed_iff.mpr ⟨here, spelledHere⟩) fun child inside =>
          ih child inside (spelledBelow child inside)

theorem Registry.MakesSettable.makesAllowed {registry : Registry}
    (settable : registry.MakesSettable) : registry.MakesAllowed where
  childless := settable.childless
  distinct := settable.distinct
  allowed := fun kind made known entry inside =>
    (settable.settable kind made known entry inside).isSetting.2

theorem Expressible.fresh {registry : Registry} (settable : registry.MakesSettable)
    {kind : String} {made : Node} (known : registry.Makes kind made) (name : IsName kind) :
    Expressible registry (made.withKind kind) := by
  refine expressible_iff.mpr ⟨.fresh settable.makesAllowed known,
    Node.forall_mem_subtrees_iff.mpr ⟨⟨by rwa [Node.kind_withKind], ?_⟩, ?_⟩⟩
  · rw [Node.explicit_withKind]
    exact fun entry inside => (settable.settable kind made known entry inside).isSetting.1
  · rw [Node.children_withKind, settable.childless kind made known]
    exact List.forall_mem_nil _

theorem Expressible.set {registry : Registry} {node grown : Node} {key value : String}
    {line : Option Int} (expressible : Expressible registry node)
    (setting : IsSetting key value)
    (accepted : node.acceptAttribute key value line = .ok grown) :
    Expressible registry grown := by
  obtain ⟨assembled, spelled⟩ := expressible_iff.mp expressible
  obtain ⟨⟨name, settings⟩, below⟩ := Node.forall_mem_subtrees_iff.mp spelled
  refine expressible_iff.mpr ⟨assembled.set accepted, ?_⟩
  obtain ⟨-, rfl⟩ := Node.acceptAttribute_eq_ok_iff.mp accepted
  refine Node.forall_mem_subtrees_iff.mpr ⟨⟨by rwa [Node.kind_withExplicit], ?_⟩, ?_⟩
  · rw [Node.explicit_withExplicit]
    exact OrderedMap.forall_entries_insert settings setting
  · rwa [Node.children_withExplicit]

theorem Expressible.attach {registry : Registry} {node child grown : Node} {line : Option Int}
    (expressible : Expressible registry node) (below : Expressible registry child)
    (accepted : node.acceptChild child line = .ok grown) : Expressible registry grown := by
  obtain ⟨assembled, spelled⟩ := expressible_iff.mp expressible
  obtain ⟨childAssembled, childSpelled⟩ := expressible_iff.mp below
  obtain ⟨⟨name, settings⟩, others⟩ := Node.forall_mem_subtrees_iff.mp spelled
  refine expressible_iff.mpr ⟨assembled.attach childAssembled accepted, ?_⟩
  obtain rfl := Node.eq_withChildren_of_acceptChild accepted
  refine Node.forall_mem_subtrees_iff.mpr
    ⟨⟨by rwa [Node.kind_withChildren], by rwa [Node.explicit_withChildren]⟩, ?_⟩
  intro other inside
  rcases List.mem_append.mp (Node.mem_children_withChildren inside) with old | new
  · exact others other old
  · rwa [List.mem_singleton.mp new]

/-- The lines of a template make expressible trees and nothing else. -/
theorem expressible_invariant {registry : Registry} (settable : registry.MakesSettable)
    (source : String) : Invariant registry (scan source) (Expressible registry) where
  fresh := by
    intro line inside declares node resolved
    obtain ⟨made, known, rfl⟩ := Registry.resolve_eq_ok_iff.mp resolved
    exact .fresh settable known
      ((isName_of_mem_scan inside).of_declares (declares_iff.mpr ⟨declares, rfl⟩))
  set := by
    intro line inside sets node grown expressible accepted
    exact expressible.set ((isName_of_mem_scan inside).of_sets (sets_iff.mpr ⟨sets, rfl⟩)) accepted
  attach := by
    intro node child grown line expressible below accepted
    exact expressible.attach below accepted

end TuiTemplate
