import TuiTemplate.Proofs.Template.Reading
import TuiTemplate.Proofs.Text.Placeholder
import TuiTemplate.Proofs.Widget.Built
import TuiTemplate.Proofs.Widget.Walk

set_option autoImplicit false

namespace TuiTemplate

namespace Node

/-- A tree of layouts and paragraphs, under whatever names, with any attributes that these take. -/
inductive Composed : Node → Prop where
  | layout (kind : String) {explicit : Attributes} {children : List Node}
      (allowed : ∀ entry ∈ explicit.entries, layoutWidget.head.Allows entry.1 entry.2)
      (below : ∀ child ∈ children, Composed child) :
      Composed (((layoutWidget.withKind kind).withExplicit explicit).withChildren children)
  | paragraph (kind : String) (text? : Option String) :
      Composed ((paragraphWidget.withKind kind).withExplicit
        ⟨(text?.map fun text => ("text", text)).toList⟩)

namespace Composed

variable {n : Node}

theorem rename (composed : n.Composed) (kind : String) : (n.withKind kind).Composed := by
  cases composed with
  | layout _ allowed below => exact .layout kind allowed below
  | paragraph _ text? => exact .paragraph kind text?

theorem set {grown : Node} {key value : String} {line : Option Int} (composed : n.Composed)
    (accepted : n.acceptAttribute key value line = .ok grown) : grown.Composed := by
  obtain ⟨allows, rfl⟩ := acceptAttribute_eq_ok_iff.mp accepted
  cases composed with
  | layout kind allowed below =>
      refine .layout kind ?_ below
      exact OrderedMap.forall_entries_insert (P := layoutWidget.head.Allows) allowed allows
  | paragraph kind text? =>
      obtain rfl := allows_paragraphWidget_iff.mp allows
      cases text? with
      | none => exact .paragraph kind (some value)
      | some text => exact .paragraph kind (some value)

theorem attach {child grown : Node} {line : Option Int} (composed : n.Composed)
    (childComposed : child.Composed) (accepted : n.acceptChild child line = .ok grown) :
    grown.Composed := by
  cases composed with
  | layout kind allowed below =>
      cases accepted
      refine .layout kind allowed ?_
      intro other inside
      rcases List.mem_append.mp inside with old | new
      · exact below other old
      · rwa [List.mem_singleton.mp new]
  | paragraph kind text? => cases accepted

/-- Such trees are what templates declare if there are no other kinds. -/
theorem of_compile {registry : Registry}
    (makes : ∀ kind made, registry.Makes kind made → made.Composed) {source : String} {tree : Node}
    (compiled : compile registry source = .ok tree) : tree.Composed := by
  have grown := Grown.of_compile compiled
  clear compiled
  induction grown with
  | fresh resolves =>
      obtain ⟨kind, line, resolved⟩ := resolves
      obtain ⟨made, known, rfl⟩ := Registry.resolve_eq_ok_iff.mp resolved
      exact (makes kind made known).rename kind
  | set before accepted ih => exact ih.set accepted
  | attach before below accepted ih belowIh => exact ih.attach belowIh accepted

theorem oriented (composed : n.Composed) : n.Oriented := by
  induction composed with
  | layout kind allowed below ih =>
      cases layoutWidget_built.sound with
      | container orients =>
          obtain ⟨direction, answers⟩ := orients _ allowed
          exact .container answers ih
  | paragraph kind text? => exact .leaf _ _

theorem of_mem_subtrees (composed : n.Composed) : ∀ inner ∈ n.subtrees, inner.Composed := by
  induction composed with
  | @layout kind explicit children allowed below ih =>
      exact forall_mem_subtrees_iff.mpr ⟨.layout kind allowed below, ih⟩
  | paragraph kind text? =>
      exact forall_mem_subtrees_iff.mpr ⟨.paragraph kind text?, List.forall_mem_nil _⟩

end Composed

def ownPlaceholders (n : Node) : List String := n.explicit.values.flatMap placeholders

/-- The text that a paragraph draws, before it is filled in. -/
def literal (n : Node) : String := (n.attributes.get? "text").getD ""

/-- The names of directions have no placeholders. -/
theorem Composed.ownPlaceholders_eq_nil {n : Node} (composed : n.Composed)
    (noLeaf : n.isLeaf = false) : n.ownPlaceholders = [] := by
  have plain : ∀ name ∈ Direction.all.map Direction.name, '{' ∉ name.toList := by decide
  cases composed with
  | layout kind allowed below =>
      refine List.flatMap_eq_nil_iff.mpr fun value inside => ?_
      obtain ⟨entry, member, rfl⟩ := List.mem_map.mp inside
      exact placeholders_eq_nil (plain _ (allows_layoutWidget_iff.mp (allowed entry member)).2)
  | paragraph kind text? => cases noLeaf

/-- A paragraph draws what was set on it. -/
theorem Composed.ownPlaceholders_eq {n : Node} (composed : n.Composed) (leaf : n.isLeaf = true) :
    n.ownPlaceholders = placeholders n.literal := by
  cases composed with
  | layout kind allowed below => cases leaf
  | paragraph kind text? =>
      cases text? with
      | none => exact (placeholders_eq_nil List.not_mem_nil).symm
      | some text => exact List.flatMap_singleton placeholders text

theorem Composed.content?_eq {n : Node} (composed : n.Composed) (leaf : n.isLeaf = true)
    (subs : Substitutions) : n.content? subs = some (.ok (renderText n.literal subs)) := by
  cases composed with
  | layout kind allowed below => cases leaf
  | paragraph kind text? => rfl

end Node

end TuiTemplate
