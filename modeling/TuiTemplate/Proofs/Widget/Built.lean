import TuiTemplate.Proofs.Widget.Builtin

set_option autoImplicit false

namespace TuiTemplate

/-- Whether all attributes that are set could have been set one by one. -/
def Head.Valid (h : Head) : Prop := ∀ entry ∈ h.explicit.entries, h.Allows entry.1 entry.2

/-- Whether the axis of a class of containers tells a direction whatever attributes are set, as
long as the class allows them. -/
def Head.Orients (h : Head) (axis : Axis) : Prop :=
  ∀ explicit, Head.Valid { h with explicit := explicit } →
    ∃ direction, axis (Head.attributes { h with explicit := explicit }) = .ok direction

namespace Node

/-- A tree of containers and leaves as widgets come to be: made, renamed, given attributes and
given children. -/
inductive Built : Node → Prop where
  | container {head : Head} {axis : Axis} (orients : head.Orients axis) (valid : head.Valid) :
      Built (.container head axis [])
  | leaf {head : Head} (content : Content) : Built (.leaf head content)
  | rename {n : Node} (kind : String) (built : Built n) : Built (n.withKind kind)
  | set {n grown : Node} {key value : String} {line : Option Int} (built : Built n)
      (accepted : n.acceptAttribute key value line = .ok grown) : Built grown
  | attach {n child grown : Node} {line : Option Int} (built : Built n) (below : Built child)
      (accepted : n.acceptChild child line = .ok grown) : Built grown

theorem Built.append {n : Node} (built : n.Built) (container : n.isContainer = true)
    {children : List Node} (below : ∀ child ∈ children, child.Built) :
    (n.withChildren (n.children ++ children)).Built := by
  induction children generalizing n with
  | nil => rwa [List.append_nil, withChildren_children]
  | cons child rest ih =>
      have attached : (n.withChildren (n.children ++ [child])).Built :=
        built.attach (below child List.mem_cons_self)
          (acceptChild_of_isContainer container child none)
      have later := ih attached (by rwa [isContainer_withChildren])
        fun other inside => below other (List.mem_cons_of_mem child inside)
      rwa [withChildren_withChildren, children_withChildren container, List.append_assoc] at later

/-- A tree of leaves and of containers that each tell a direction. -/
inductive Oriented : Node → Prop where
  | container {head : Head} {axis : Axis} {children : List Node} {direction : Direction}
      (answers : axis head.attributes = .ok direction)
      (below : ∀ child ∈ children, Oriented child) : Oriented (.container head axis children)
  | leaf (head : Head) (content : Content) : Oriented (.leaf head content)

/-- What building keeps of a container, whose attributes may still change. -/
inductive Sound : Node → Prop where
  | container {head : Head} {axis : Axis} {children : List Node} (orients : head.Orients axis)
      (valid : head.Valid) (below : ∀ child ∈ children, Sound child) :
      Sound (.container head axis children)
  | leaf (head : Head) (content : Content) : Sound (.leaf head content)

theorem Sound.rename {n : Node} (sound : n.Sound) (kind : String) : (n.withKind kind).Sound := by
  cases sound with
  | container orients valid below => exact .container orients valid below
  | leaf head content => exact .leaf _ content

theorem Sound.set {n grown : Node} {key value : String} {line : Option Int} (sound : n.Sound)
    (accepted : n.acceptAttribute key value line = .ok grown) : grown.Sound := by
  obtain ⟨allowed, rfl⟩ := acceptAttribute_eq_ok_iff.mp accepted
  cases sound with
  | @container head axis children orients valid below =>
      refine .container orients ?_ below
      exact OrderedMap.forall_entries_insert (P := head.Allows) valid allowed
  | leaf head content => exact .leaf _ content

theorem Sound.attach {n child grown : Node} {line : Option Int} (sound : n.Sound)
    (childSound : child.Sound) (accepted : n.acceptChild child line = .ok grown) :
    grown.Sound := by
  cases sound with
  | container orients valid below =>
      cases accepted
      refine .container orients valid ?_
      intro other inside
      rcases List.mem_append.mp inside with old | new
      · exact below other old
      · rwa [List.mem_singleton.mp new]
  | leaf head content => cases accepted

theorem Sound.oriented {n : Node} (sound : n.Sound) : n.Oriented := by
  induction sound with
  | @container head axis children orients valid below ih =>
      obtain ⟨direction, answers⟩ := orients head.explicit valid
      exact .container answers ih
  | leaf head content => exact .leaf head content

theorem Built.sound {n : Node} (built : n.Built) : n.Sound := by
  induction built with
  | container orients valid => exact .container orients valid (List.forall_mem_nil _)
  | leaf content => exact .leaf _ content
  | rename kind built ih => exact ih.rename kind
  | set built accepted ih => exact ih.set accepted
  | attach built below accepted ih childIh => exact ih.attach childIh accepted

end Node

theorem layoutWidget_built : layoutWidget.Built := by
  refine .container ?_ (List.forall_mem_nil _)
  intro explicit valid
  have unset : ∃ name, layoutWidget.head.defaults.get? "direction" = some name ∧
      name ∈ Direction.all.map Direction.name := ⟨"vertical", rfl, by decide⟩
  have set : ∀ entry ∈ explicit.entries, entry.1 = "direction" →
      entry.2 ∈ Direction.all.map Direction.name :=
    fun entry inside _ => (allows_layoutWidget_iff.mp (valid entry inside)).2
  obtain ⟨name, found, known⟩ := OrderedMap.exists_get?_update unset set
  obtain ⟨direction, -, rfl⟩ := List.mem_map.mp known
  refine ⟨direction, ?_⟩
  have read : (Head.attributes { layoutWidget.head with explicit := explicit }).get? "direction" =
      some direction.name := found
  have named : Direction.ofName? direction.name = some direction := by
    cases direction <;> rfl
  simp only [layoutWidget, Node.head] at read
  simp only [read, Option.getD_some, named]

end TuiTemplate
