import TuiTemplate.Proofs.Template.Grammar
import TuiTemplate.Proofs.Template.Reading

set_option autoImplicit false

namespace TuiTemplate

open Grammar

/-- Whether the lines end a block at some indent: no line follows, or one that is indented less
and by whole steps. -/
def Closes (indent : Nat) (lines : List Line) : Prop :=
  ∀ line, lines.head? = some line → line.indent < indent ∧ line.indent % indentStep = 0

theorem Closes.nil (indent : Nat) : Closes indent [] := by
  intro line first
  cases first

theorem Closes.nested {indent : Nat} {lines : List Line} (closes : Closes indent lines) :
    Closes (indent + indentStep) lines := by
  intro line first
  obtain ⟨shallower, aligned⟩ := closes line first
  exact ⟨Nat.lt_add_right indentStep shallower, aligned⟩

/-- What closes the block of the root is on the top level. -/
theorem Closes.indent_eq_zero {line : Line} {rest : List Line}
    (closes : Closes indentStep (line :: rest)) : line.indent = 0 := by
  obtain ⟨shallower, aligned⟩ := closes line rfl
  rw [Nat.mod_eq_of_lt shallower] at aligned
  exact aligned

theorem Closes.reads {indent : Nat} {lines : List Line} (closes : Closes indent lines)
    (registry : Registry) (parent : Node) (sawChild : Bool) :
    Reads registry parent indent sawChild lines (.ok parent) lines := by
  cases lines with
  | nil => exact .finish parent indent sawChild
  | cons line rest =>
      obtain ⟨shallower, aligned⟩ := closes line rfl
      exact .dedent shallower aligned

namespace Grammar

theorem Settings.reads {registry : Registry} {indent : Nat} {node filled : Node}
    {lines rest left : List Line} {outcome : Except CompileError Node}
    (settings : Settings indent node lines filled)
    (later : Reads registry filled indent false rest outcome left) :
    Reads registry node indent false (lines ++ rest) outcome left := by
  induction settings with
  | nil node => exact later
  | cons level sets accepted settings ih =>
      obtain ⟨isSetting, parts⟩ := sets_iff.mp sets
      refine .setting level isSetting ?_ (ih later)
      rw [parts]
      exact accepted

theorem Settings.children_eq {indent : Nat} {node filled : Node} {lines : List Line}
    (settings : Settings indent node lines filled) : filled.children = node.children := by
  induction settings with
  | nil node => rfl
  | cons level sets accepted settings ih =>
      obtain ⟨-, rfl⟩ := Node.acceptAttribute_eq_ok_iff.mp accepted
      rw [ih, Node.children_withExplicit]

theorem Settings.kind_eq {indent : Nat} {node filled : Node} {lines : List Line}
    (settings : Settings indent node lines filled) : filled.kind = node.kind := by
  induction settings with
  | nil node => rfl
  | cons level sets accepted settings ih =>
      obtain ⟨-, rfl⟩ := Node.acceptAttribute_eq_ok_iff.mp accepted
      rw [ih, Node.kind_withExplicit]

/-- The lines of a widget end the blocks below the widgets before it. -/
theorem Widgets.closes {registry : Registry} {depth : Nat} {lines rest : List Line}
    {nodes : List Node} (widgets : Widgets registry depth lines nodes)
    (closes : Closes (indentStep * depth) rest) :
    Closes (indentStep * (depth + 1)) (lines ++ rest) := by
  cases widgets with
  | nil => exact closes.nested
  | cons level declares known attributes nested holds later =>
      intro line first
      cases first
      exact ⟨by simp only [level, indentStep]; omega, by simp [level]⟩

theorem resolve_of_makes {registry : Registry} {line : Line} {kind : String} {made : Node}
    (declares : Declares line.text kind) (known : registry.Makes kind made) :
    registry.resolve (declaredKind line.text) (some line.number) = .ok (made.withKind kind) := by
  rw [(declares_iff.mp declares).2]
  exact Registry.resolve_eq_ok_iff.mpr ⟨made, known, rfl⟩

/-- A block is read when its attributes are set and its children are read after them. -/
theorem Settings.block_reads {registry : Registry} {indent : Nat} {made filled : Node}
    {kind : String} {settings later left : List Line} {children : List Node}
    (attributes : Settings indent (made.withKind kind) settings filled)
    (childless : made.children = [])
    (inner : Reads registry filled indent false later
      (.ok (filled.withChildren (filled.children ++ children))) left) :
    Reads registry (made.withKind kind) indent false (settings ++ later)
      (.ok (filled.withChildren children)) left := by
  have empty : filled.children = [] := by
    rw [attributes.children_eq, Node.children_withKind, childless]
  rw [empty, List.nil_append] at inner
  exact attributes.reads inner

/-- What the grammar derives as widgets, the parser reads as children, whatever closes their
block. -/
theorem Widgets.reads {registry : Registry}
    (childless : ∀ kind made, registry.Makes kind made → made.children = [])
    {depth : Nat} {lines : List Line} {nodes : List Node}
    (widgets : Widgets registry depth lines nodes) {parent : Node} {sawChild : Bool}
    {rest : List Line} (holds : nodes = [] ∨ parent.isContainer = true)
    (closes : Closes (indentStep * depth) rest) :
    Reads registry parent (indentStep * depth) sawChild (lines ++ rest)
      (.ok (parent.withChildren (parent.children ++ nodes))) rest := by
  induction widgets generalizing parent sawChild rest with
  | nil depth =>
      rw [List.append_nil, Node.withChildren_children]
      exact closes.reads registry parent sawChild
  | @cons depth line settings below after kind made filled children siblings level declares known
      attributes nested innerHolds later nestedIh laterIh =>
      have container : parent.isContainer = true := holds.resolve_left (List.cons_ne_nil _ _)
      have block : Reads registry (made.withKind kind) (indentStep * (depth + 1)) false
          (settings ++ (below ++ (after ++ rest))) (.ok (filled.withChildren children))
          (after ++ rest) :=
        attributes.block_reads (childless _ _ known)
          (nestedIh innerHolds (later.closes closes))
      have following : Reads registry
          (parent.withChildren (parent.children ++ [filled.withChildren children]))
          (indentStep * depth) true (after ++ rest) _ rest :=
        laterIh (.inr (by rw [Node.isContainer_withChildren, container])) closes
      rw [Node.withChildren_withChildren, Node.children_withChildren container,
        List.append_assoc, List.singleton_append] at following
      rw [List.cons_append, List.append_assoc, List.append_assoc]
      exact .child level (declares_iff.mp declares).1 (resolve_of_makes declares known) block
        (Node.acceptChild_of_isContainer container _ _) following

theorem Document.parse_eq {registry : Registry} {lines : List Line} {tree : Node}
    (childless : ∀ kind made, registry.Makes kind made → made.children = [])
    (document : Document registry lines tree) :
    (parse registry lines).outcome = .ok tree := by
  obtain ⟨widgets, container⟩ := document
  cases widgets with
  | @cons _ line settings below after kind made filled children _ level declares known attributes
      nested holds later =>
      cases later
      obtain ⟨isDeclared, named⟩ := declares_iff.mp declares
      have block : Reads registry (made.withKind kind) indentStep false
          (settings ++ (below ++ [])) (.ok (filled.withChildren children)) [] :=
        attributes.block_reads (childless _ _ known)
          (nested.reads childless holds (.nil _))
      have kindKept : (filled.withChildren children).kind = kind := by
        rw [Node.kind_withChildren, attributes.kind_eq, Node.kind_withKind]
      rw [kindKept, ← named] at container
      refine parse_eq_ok_iff.mpr ⟨line, _, made.withKind kind, rfl, level, isDeclared,
        resolve_of_makes declares known, container, ?_⟩
      rwa [← List.append_assoc] at block

end Grammar

/-- A block that is read to its end was derived by the grammar: first come attributes of the
parent, unless it has children already, and then further children. -/
theorem Reads.derives {registry : Registry} (fresh : registry.MakesFresh)
    {parent : Node} {indent : Nat} {sawChild : Bool} {lines left : List Line}
    {outcome : Except CompileError Node}
    (reads : Reads registry parent indent sawChild lines outcome left) {depth : Nat}
    {tree : Node} (level : indent = indentStep * depth) (success : outcome = .ok tree)
    (parentActive : ¬ parent.IsInert) :
    ∃ settings below filled children, lines = settings ++ below ++ left ∧
      Settings indent parent settings filled ∧ Widgets registry depth below children ∧
      (children = [] ∨ filled.isContainer = true) ∧
      tree = filled.withChildren (filled.children ++ children) ∧
      (sawChild = true → settings = []) := by
  induction reads generalizing depth tree with
  | finish parent indent sawChild =>
      cases success
      exact ⟨[], [], parent, [], rfl, .nil parent, .nil depth, .inl rfl, by simp, fun _ => rfl⟩
  | @dedent parent indent sawChild line rest shallower aligned =>
      cases success
      exact ⟨[], [], parent, [], rfl, .nil parent, .nil depth, .inl rfl, by simp, fun _ => rfl⟩
  | @child parent node child grown indent sawChild line rest left final outcome atLevel declares
      resolved inner accepted later innerIh laterIh =>
      obtain ⟨made, known, rfl⟩ := Registry.resolve_eq_ok_iff.mp resolved
      have container := Node.isContainer_of_acceptChild parentActive accepted
      have grownIs := Node.eq_withChildren_of_acceptChild accepted
      obtain ⟨settings, below, filled, children, spelled, attributes, nested, holds, childIs, -⟩ :=
        innerIh (show indent + indentStep = indentStep * (depth + 1) by rw [level]; rfl) rfl
          (by simpa only [Node.isInert_withKind] using fresh.active _ _ known)
      have empty : filled.children = [] := by
        rw [attributes.children_eq, Node.children_withKind, fresh.childless _ _ known]
      obtain ⟨none, after, parentAgain, siblings, spelledAfter, unset, following, -, treeIs,
        noSettings⟩ := laterIh level success
          (by rw [grownIs, Node.isInert_withChildren]; exact parentActive)
      obtain rfl := noSettings rfl
      cases unset
      refine ⟨[], line :: (settings ++ below ++ after), parent, child :: siblings, ?_,
        .nil parent, ?_, .inr container, ?_, fun _ => rfl⟩
      · simp [spelled, spelledAfter]
      · rw [childIs, empty, List.nil_append]
        exact .cons (by rw [atLevel, level]) (declares_iff.mpr ⟨declares, rfl⟩) known
          (by rw [level] at attributes; exact attributes) nested holds following
      · rw [treeIs, grownIs, Node.withChildren_withChildren, Node.children_withChildren container,
          List.append_assoc, List.singleton_append]
  | @setting parent grown indent line rest final outcome atLevel sets accepted later laterIh =>
      obtain ⟨-, grownIs⟩ := Node.acceptAttribute_eq_ok_iff.mp accepted
      obtain ⟨settings, below, filled, children, rfl, attributes, nested, holds, treeIs, -⟩ :=
        laterIh level success (by rw [grownIs, Node.isInert_withExplicit]; exact parentActive)
      exact ⟨line :: settings, below, filled, children, rfl,
        .cons atLevel (sets_iff.mpr ⟨sets, rfl⟩) accepted attributes, nested, holds, treeIs,
        fun late => absurd late Bool.false_ne_true⟩
  | _ => cases success

theorem Grammar.Document.of_parse {registry : Registry} (fresh : registry.MakesFresh)
    {lines : List Line} {tree : Node} (parsed : (parse registry lines).outcome = .ok tree) :
    Document registry lines tree := by
  obtain ⟨line, rest, node, rfl, level, declares, resolved, container, block⟩ :=
    parse_eq_ok_iff.mp parsed
  obtain ⟨made, known, rfl⟩ := Registry.resolve_eq_ok_iff.mp resolved
  obtain ⟨settings, below, filled, children, rfl, attributes, nested, holds, rfl, -⟩ :=
    block.derives fresh (show indentStep = indentStep * (0 + 1) from rfl) rfl
      (by simpa only [Node.isInert_withKind] using fresh.active _ _ known)
  have empty : filled.children = [] := by
    rw [attributes.children_eq, Node.children_withKind, fresh.childless _ _ known]
  rw [empty, List.nil_append]
  constructor
  · exact .cons level (declares_iff.mpr ⟨declares, rfl⟩) known attributes nested holds (.nil 0)
  · rwa [Node.kind_withChildren, attributes.kind_eq, Node.kind_withKind]

/-- The compiler accepts the documents of the grammar and no other text. It returns the tree that
the grammar derives and leaves no line unread. -/
theorem compile_eq_ok_iff_document {registry : Registry} (fresh : registry.MakesFresh)
    (source : String) (tree : Node) :
    (compile registry source = .ok tree ↔ Document registry (scan source) tree) ∧
      (compile registry source = .ok tree →
        (parse registry (scan source)).position = (scan source).length) := by
  refine ⟨⟨?_, ?_⟩, ?_⟩
  · intro compiled
    exact Document.of_parse fresh compiled
  · intro document
    exact document.parse_eq fresh.childless
  · intro compiled
    exact position_of_parse_eq_ok compiled

/-- A container with an attribute and a leaf below it, and a comment that is no line. -/
theorem compile_eq_ok_iff_document_row :
    compile .builtin "Layout:\n    direction: horizontal\n// a leaf\n    Paragraph:\n" =
        .ok ((layoutWidget.withExplicit ⟨[("direction", "horizontal")]⟩).withChildren
          [paragraphWidget]) ∧
      (parse .builtin
        (scan "Layout:\n    direction: horizontal\n// a leaf\n    Paragraph:\n")).position =
          3 := by
  have lines : scan "Layout:\n    direction: horizontal\n// a leaf\n    Paragraph:\n" =
      [⟨"Layout:", 0, 1, "Layout:"⟩,
       ⟨"direction: horizontal", 4, 2, "    direction: horizontal"⟩,
       ⟨"Paragraph:", 4, 4, "    Paragraph:"⟩] := by decide +kernel
  have row : Declares "Layout:" "Layout" := ⟨"Layout", rfl, by decide⟩
  have direction : Sets "direction: horizontal" "direction" "horizontal" :=
    sets_iff.mpr ⟨by decide, by decide⟩
  have leaf : Declares "Paragraph:" "Paragraph" := ⟨"Paragraph", rfl, by decide⟩
  have leaves : Widgets .builtin 1 (⟨"Paragraph:", 4, 4, "    Paragraph:"⟩ :: ([] ++ [] ++ []))
      [_] :=
    .cons rfl leaf ⟨_, rfl, rfl⟩ (.nil _) (.nil 2) (.inl rfl) (.nil 1)
  have widgets : Widgets .builtin 0 (⟨"Layout:", 0, 1, "Layout:"⟩ ::
      ([⟨"direction: horizontal", 4, 2, "    direction: horizontal"⟩] ++
        [⟨"Paragraph:", 4, 4, "    Paragraph:"⟩] ++ [])) [_] :=
    .cons rfl row ⟨_, rfl, rfl⟩ (.cons rfl direction rfl (.nil _)) leaves (.inr rfl) (.nil 0)
  have accepted := compile_eq_ok_iff_document Registry.builtin_makesFresh
    "Layout:\n    direction: horizontal\n// a leaf\n    Paragraph:\n"
  rw [lines] at accepted
  have compiled := (accepted _).1.mpr ⟨widgets, rfl⟩
  rw [lines]
  exact ⟨compiled, (accepted _).2 compiled⟩

end TuiTemplate
