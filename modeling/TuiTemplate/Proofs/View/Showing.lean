import TuiTemplate.Proofs.Render.Interrupted
import TuiTemplate.Proofs.View.Order

set_option autoImplicit false

namespace TuiTemplate

/-- Whether a head is that of a view in a panel of some direction, or that of the topmost view. -/
structure ViewHead.StandsIn (outer : Option Direction) (head : ViewHead) : Prop where
  id : head.id = if outer = none then some View.rootName else none
  width : head.width = if outer = some .horizontal then .share else .whole
  height : head.height = if outer = some .vertical then .share else .whole

theorem isName_kindClass {kind : String}
    (named : ∀ c ∈ (Text.lower kind).toList, inName c = true) :
    isName (kindClass kind).toList = true := by
  have begun : (kindClass kind).toList = 'k' :: ("ind-".toList ++ (Text.lower kind).toList) := by
    rw [kindClass, String.toList_append]
    rfl
  have mark : "ind-".toList.all inName = true := by decide
  rw [begun, isName, List.all_append, mark, List.all_eq_true.mpr named]
  rfl

theorem exists_viewHead {kind : String}
    (named : ∀ c ∈ (Text.lower kind).toList, inName c = true) (outer : Option Direction) :
    ∃ head, viewHead kind outer = .ok head ∧ head.kindClass = kindClass kind ∧
      head.StandsIn outer := by
  simp only [viewHead, isName_kindClass named, if_true]
  cases outer with
  | none => exact ⟨_, rfl, rfl, rfl, rfl, rfl⟩
  | some direction => cases direction <;> exact ⟨_, rfl, rfl, rfl, rfl, rfl⟩

/-- Whether a view shows a widget: a panel divided as the widget is, in which the views of its
children stand in their order, or the text of a leaf. -/
inductive Node.ShownBy (subs : Substitutions) : Node → View → Prop where
  | panel {head : Head} {axis : Axis} {children : List Node} {direction : Direction}
      {top : ViewHead} {views : List View} (marked : top.kindClass = kindClass head.kind)
      (answers : axis head.attributes = .ok direction)
      (below : List.Forall₂ (ShownBy subs) children views)
      (stand : ∀ view ∈ views, view.head.StandsIn (some direction)) :
      ShownBy subs (.container head axis children) (.panel top direction views)
  | leaf {head : Head} {content : Content} {text : String} {top : ViewHead}
      (marked : top.kindClass = kindClass head.kind) (told : content head subs = .ok text) :
      ShownBy subs (.leaf head content) (.leaf top head.kind text)

namespace View

variable {subs : Substitutions}

theorem leafTexts_flatMap_postorder {children : List Node} {views : List View}
    (below : List.Forall₂ (Node.ShownBy subs) children views)
    (each : ∀ child ∈ children, ∀ view, child.ShownBy subs view →
      leafTexts view.postorder = child.leaves.map (Node.drawnText subs)) :
    leafTexts (views.flatMap postorder) =
      (children.flatMap Node.leaves).map (Node.drawnText subs) := by
  induction below with
  | nil => rfl
  | @cons child view children views shown later ih =>
      have rest := ih fun other inside => each other (List.mem_cons_of_mem child inside)
      rw [List.flatMap_cons, leafTexts_append, each child List.mem_cons_self view shown, rest,
        List.flatMap_cons, List.map_append]

/-- The views are in another order than the widgets, but the leaves among them are not. -/
theorem leafTexts_postorder {n : Node} {view : View} (shown : n.ShownBy subs view) :
    leafTexts view.postorder = n.leaves.map (Node.drawnText subs) := by
  induction n using Node.children_induction generalizing view with
  | step n ih =>
      rw [postorder_eq_append, leafTexts_append]
      cases shown with
      | @panel head axis children direction top views marked answers below stand =>
          rw [View.children, leafTexts_flatMap_postorder below ih, Node.leaves_container]
          exact List.append_nil _
      | @leaf head content text top marked told =>
          have drawn : Node.drawnText subs (.leaf head content) = text :=
            Node.drawnText_eq (congrArg some told)
          rw [← drawn]
          rfl

theorem exists_shown_flatMap_postorder {children : List Node} {views : List View}
    (below : List.Forall₂ (Node.ShownBy subs) children views)
    (each : ∀ child ∈ children, ∀ view, child.ShownBy subs view →
      ∃ nodes, nodes.Perm child.subtrees ∧
        List.Forall₂ (Node.ShownBy subs) nodes view.postorder) :
    ∃ nodes, nodes.Perm (children.flatMap Node.subtrees) ∧
      List.Forall₂ (Node.ShownBy subs) nodes (views.flatMap postorder) := by
  induction below with
  | nil => exact ⟨[], .refl _, .nil⟩
  | @cons child view children views shown later ih =>
      obtain ⟨front, frontAll, frontShown⟩ := each child List.mem_cons_self view shown
      obtain ⟨back, backAll, backShown⟩ :=
        ih fun other inside => each other (List.mem_cons_of_mem child inside)
      exact ⟨front ++ back, frontAll.append backAll, List.rel_append frontShown backShown⟩

/-- Each widget of a tree has one view among those of the tree, and no other views are there. -/
theorem exists_shown_postorder {n : Node} {view : View} (shown : n.ShownBy subs view) :
    ∃ nodes, nodes.Perm n.subtrees ∧ List.Forall₂ (Node.ShownBy subs) nodes view.postorder := by
  induction n using Node.children_induction generalizing view with
  | step n ih =>
      have here : List.Forall₂ (Node.ShownBy subs) [n] [view] := .cons shown .nil
      rw [postorder_eq_append, Node.subtrees_eq_cons]
      cases shown with
      | @panel head axis children direction top views marked answers below stand =>
          obtain ⟨nodes, all, each⟩ := exists_shown_flatMap_postorder below ih
          refine ⟨nodes ++ [.container head axis children], ?_, List.rel_append each here⟩
          exact (List.perm_append_singleton _ nodes).trans (all.cons _)
      | leaf marked told => exact ⟨_, .refl _, here⟩

end View

namespace ViewBuilder

theorem substitutions_addNodes {children : List Node}
    (each : ∀ child ∈ children, ∀ (b : ViewBuilder) (outer : Option Direction),
      (b.addNode outer child).1.substitutions = b.substitutions)
    (b : ViewBuilder) (direction : Direction) :
    (b.addNodes direction children).1.substitutions = b.substitutions := by
  induction children generalizing b with
  | nil => rfl
  | cons child rest ih =>
      have first := each child List.mem_cons_self b (some direction)
      rw [addNodes]
      cases added : b.addNode (some direction) child with
      | mk after answer =>
          rw [added] at first
          cases answer with
          | error e => exact first
          | ok view =>
              have later := ih (fun other inside => each other (List.mem_cons_of_mem child inside))
                after
              simp only
              cases addedAll : after.addNodes direction rest with
              | mk done answers =>
                  rw [addedAll] at later
                  cases answers <;> exact later.trans first

/-- A builder never changes what it substitutes, also when it fails. -/
theorem substitutions_addNode (b : ViewBuilder) (outer : Option Direction) (n : Node) :
    (b.addNode outer n).1.substitutions = b.substitutions := by
  induction n using Node.children_induction generalizing b outer with
  | step n ih =>
      cases n with
      | container head axis children =>
          rw [addNode]
          cases axis head.attributes with
          | error reason => rfl
          | ok direction =>
              have below : (b.addNodes direction children).1.substitutions = b.substitutions :=
                substitutions_addNodes ih b direction
              simp only
              cases added : b.addNodes direction children with
              | mk after answer =>
                  rw [added] at below
                  cases answer with
                  | error e => exact below
                  | ok views =>
                      simp only
                      cases viewHead head.kind outer <;> exact below
      | leaf head content =>
          rw [addNode]
          cases content head b.substitutions with
          | error fault => rfl
          | ok text => cases viewHead head.kind outer <;> rfl
      | inert head =>
          rw [addNode]
          cases viewHead head.kind outer <;> rfl

def buildAll (b : ViewBuilder) (trees : List Node) : ViewBuilder :=
  trees.foldl (fun b tree => (b.build tree).1) b

theorem substitutions_buildAll (b : ViewBuilder) (trees : List Node) :
    (b.buildAll trees).substitutions = b.substitutions := by
  induction trees generalizing b with
  | nil => rfl
  | cons tree rest ih =>
      rw [buildAll, List.foldl_cons, ← buildAll, ih, build, substitutions_addNode]

theorem exists_addNodes {b : ViewBuilder} {children : List Node} {direction : Direction}
    (each : ∀ child ∈ children, ∀ built, ∃ view,
      child.ShownBy b.substitutions view ∧ view.head.StandsIn (some direction) ∧
        addNode { b with built := built } (some direction) child =
          ({ b with built := built ++ view.postorder }, .ok view))
    (built : List View) :
    ∃ views, List.Forall₂ (Node.ShownBy b.substitutions) children views ∧
      (∀ view ∈ views, view.head.StandsIn (some direction)) ∧
      addNodes { b with built := built } direction children =
        ({ b with built := built ++ views.flatMap View.postorder }, .ok views) := by
  induction children generalizing built with
  | nil => exact ⟨[], .nil, List.forall_mem_nil _, by simp [addNodes]⟩
  | cons child rest ih =>
      obtain ⟨view, shown, stands, added⟩ := each child List.mem_cons_self built
      obtain ⟨views, shownAll, stand, addedAll⟩ :=
        ih (fun other inside => each other (List.mem_cons_of_mem child inside))
          (built ++ view.postorder)
      refine ⟨view :: views, .cons shown shownAll, List.forall_mem_cons.mpr ⟨stands, stand⟩, ?_⟩
      simp only [addNodes, added, addedAll, List.flatMap_cons, List.append_assoc]

/-- A tree whose widgets all answer is shown, and its views are added to those before. -/
theorem exists_addNode {n : Node} (oriented : n.Oriented) {b : ViewBuilder}
    (speaks : n.Speaks b.substitutions)
    (named : ∀ inner ∈ n.subtrees, ∀ c ∈ (Text.lower inner.kind).toList, inName c = true)
    (outer : Option Direction) (built : List View) :
    ∃ view, n.ShownBy b.substitutions view ∧ view.head.StandsIn outer ∧
      addNode { b with built := built } outer n =
        ({ b with built := built ++ view.postorder }, .ok view) := by
  induction oriented generalizing outer built with
  | @container head axis children direction answers below ih =>
      obtain ⟨namedHere, namedBelow⟩ := Node.forall_mem_subtrees_iff.mp named
      obtain ⟨top, made, marked, stands⟩ := exists_viewHead namedHere outer
      rw [Node.Speaks, Node.leaves_container, List.forall_mem_flatMap] at speaks
      have each := fun child inside => ih child inside (speaks child inside)
        (namedBelow child inside) (some direction)
      obtain ⟨views, shownAll, stand, addedAll⟩ := exists_addNodes each built
      refine ⟨.panel top direction views, .panel marked answers shownAll stand, stands, ?_⟩
      have kind : viewHead head.kind outer = .ok top := made
      simp only [addNode, answers, addedAll, kind, add, View.postorder_eq_append, View.children,
        List.append_assoc]
  | leaf head content =>
      obtain ⟨namedHere, -⟩ := Node.forall_mem_subtrees_iff.mp named
      obtain ⟨top, made, marked, stands⟩ := exists_viewHead namedHere outer
      obtain ⟨text, told⟩ := speaks (.leaf head content) List.mem_cons_self
      have answered : content head b.substitutions = .ok text := Option.some.inj told
      refine ⟨.leaf top head.kind text, .leaf marked answered, stands, ?_⟩
      have kind : viewHead head.kind outer = .ok top := made
      simp only [addNode, answered, kind, add, View.postorder]

end ViewBuilder

/-- Shown as views or drawn onto a canvas, a tree has the same texts in the same order, whatever
the builder was given before. The views are those of this tree only, one for each widget, and each
comes after those in it. -/
theorem build_shows {root : Node} (oriented : root.Oriented) {subs : Substitutions}
    (speaks : root.Speaks subs)
    (named : ∀ inner ∈ root.subtrees, ∀ c ∈ (Text.lower inner.kind).toList, inName c = true)
    (earlier : List Node) (canvas : Canvas) :
    ∃ after top, ((⟨subs, []⟩ : ViewBuilder).buildAll earlier).build root = (after, .ok top) ∧
      root.ShownBy subs top ∧ top.head.StandsIn none ∧ after.built = top.postorder ∧
      (∃ nodes, nodes.Perm root.subtrees ∧ List.Forall₂ (Node.ShownBy subs) nodes after.built) ∧
      View.ChildrenFirst after.built ∧
      ∃ rendered drawn, render root subs canvas = (rendered, none) ∧
        rendered.draws = canvas.draws ++ drawn ∧
        View.leafTexts after.built = drawn.map Draw.text := by
  obtain ⟨b, given⟩ : ∃ b, (⟨subs, []⟩ : ViewBuilder).buildAll earlier = b := ⟨_, rfl⟩
  obtain rfl : b.substitutions = subs := by rw [← given, ViewBuilder.substitutions_buildAll]
  obtain ⟨top, shown, stands, added⟩ := ViewBuilder.exists_addNode oriented speaks named none []
  rw [List.nil_append] at added
  rw [given]
  refine ⟨_, top, added, shown, stands, rfl, View.exists_shown_postorder shown,
    View.childrenFirst_postorder top, _, _, render_canvas oriented speaks canvas, rfl, ?_⟩
  rw [View.leafTexts_postorder shown, oriented.map_text_draws]

/-- A tree that could not be shown leaves no view behind for the next. -/
theorem build_shows_column :
    ∃ after top,
      ((⟨⟨[("k", "v")]⟩, []⟩ : ViewBuilder).buildAll [column, shelf "Shelf"]).build column =
          (after, .ok top) ∧
        after.built.length = 5 ∧ View.leafTexts after.built = ["v", "", ""] := by
  have layout : (Text.lower "Layout").toList.all inName = true := by decide +kernel
  have leaf : (Text.lower "Paragraph").toList.all inName = true := by decide +kernel
  have named : ∀ inner ∈ column.subtrees, ∀ c ∈ (Text.lower inner.kind).toList,
      inName c = true := by
    have subtrees : column.subtrees = [_, _, _, _, _] := rfl
    rw [subtrees]
    rw [List.all_eq_true] at layout leaf
    simp only [List.forall_mem_cons]
    exact ⟨layout, leaf, layout, leaf, leaf, List.forall_mem_nil _⟩
  obtain ⟨after, top, made, -, -, -, ⟨nodes, all, each⟩, -, rendered, drawn, painted, draws, texts⟩ :=
    build_shows column_built.sound.oriented (column_speaks _) named [column, shelf "Shelf"]
      (Canvas.blank 5 3)
  have canvas : rendered = (render column ⟨[("k", "v")]⟩ (Canvas.blank 5 3)).1 := by rw [painted]
  refine ⟨after, top, made, ?_, ?_⟩
  · rw [← each.length_eq, all.length_eq]
    rfl
  · have told : drawn = rendered.draws := by rw [draws]; rfl
    rw [texts, told, canvas]
    decide +kernel

end TuiTemplate
