import TuiTemplate.Proofs.Render.Paint
import TuiTemplate.Proofs.Render.Trace

set_option autoImplicit false

namespace TuiTemplate

namespace Node

def Speaks (subs : Substitutions) (n : Node) : Prop :=
  ∀ leaf ∈ n.leaves, ∃ text, leaf.content? subs = some (.ok text)

def drawnText (subs : Substitutions) (leaf : Node) : String :=
  match leaf.content? subs with
  | some (.ok text) => text
  | _ => ""

theorem drawnText_eq {subs : Substitutions} {leaf : Node} {text : String}
    (speaks : leaf.content? subs = some (.ok text)) : leaf.drawnText subs = text := by
  rw [drawnText, speaks]

end Node

def PlacedLeaf.draw (subs : Substitutions) (p : PlacedLeaf) : Draw :=
  ⟨p.region, p.leaf.drawnText subs⟩

namespace Node

def draws (n : Node) (subs : Substitutions) (region : Region) : List Draw :=
  (n.placed region).map (PlacedLeaf.draw subs)

theorem Oriented.map_text_draws {n : Node} (oriented : n.Oriented) (subs : Substitutions)
    (region : Region) : (n.draws subs region).map Draw.text = n.leaves.map (drawnText subs) := by
  rw [draws, List.map_map, ← oriented.map_leaf_placed region, List.map_map]
  rfl

end Node

namespace PlacedLeaf

variable {subs : Substitutions} {leaves : List PlacedLeaf}

theorem forall₂_draw (speak : ∀ p ∈ leaves, ∃ text, p.leaf.content? subs = some (.ok text)) :
    List.Forall₂ (Draws subs) leaves (leaves.map (draw subs)) := by
  rw [List.forall₂_map_right_iff, List.forall₂_same]
  intro p inside
  obtain ⟨text, told⟩ := speak p inside
  exact ⟨rfl, by rw [draw, Node.drawnText_eq told, told]⟩

theorem eq_map_draw {draws : List Draw} (drawn : List.Forall₂ (Draws subs) leaves draws) :
    draws = leaves.map (draw subs) := by
  induction drawn with
  | nil => rfl
  | @cons p d rest others here later ih =>
      obtain ⟨region, told⟩ := here
      rw [List.map_cons, ← ih, draw, Node.drawnText_eq told, ← region]

end PlacedLeaf

namespace Node

/-- What is drawn is the text of every placed leaf, in its region. -/
theorem Oriented.trace_eq {n : Node} {subs : Substitutions} (oriented : n.Oriented)
    (speaks : n.Speaks subs) (region : Region) :
    n.trace subs region = ⟨n.draws subs region, none⟩ := by
  have speak : ∀ p ∈ n.placed region, ∃ text, p.leaf.content? subs = some (.ok text) :=
    fun p inside => speaks p.leaf (oriented.leaf_mem_leaves inside)
  rw [oriented.trace_eq_all, PlacedLeaf.all_trace_eq (PlacedLeaf.forall₂_draw speak), draws]

end Node

theorem Node.contains_of_mem_draws (n : Node) (subs : Substitutions) (region : Region) :
    ∀ d ∈ n.draws subs region, region.contains d.region = true := by
  intro d inside
  obtain ⟨p, member, rfl⟩ := List.mem_map.mp inside
  exact n.contains_of_mem_placed region p member

/-- A render of a tree whose widgets all answer does not fail, whatever the canvas. -/
theorem render_canvas {root : Node} (oriented : root.Oriented) {subs : Substitutions}
    (speaks : root.Speaks subs) (c : Canvas) :
    render root subs c = (c.drawn (root.draws subs c.area), none) := by
  simp only [render, Node.drawOn, oriented.trace_eq speaks, DrawTarget.area,
    replay_canvas (root.contains_of_mem_draws subs c.area), Option.map_none]

def column : Node :=
  layoutWidget.withChildren [paragraphWidget.withExplicit ⟨[("text", "\x7b\x7bk\x7d\x7d")]⟩,
    (layoutWidget.withExplicit ⟨[("direction", "horizontal")]⟩).withChildren
      [paragraphWidget, paragraphWidget]]

theorem column_built : column.Built := by
  have leaf (explicit : Attributes) : (paragraphWidget.withExplicit explicit).Built := .leaf _
  have turned : (layoutWidget.withExplicit ⟨[("direction", "horizontal")]⟩).Built :=
    layoutWidget_built.set
      (show layoutWidget.acceptAttribute "direction" "horizontal" none = .ok _ from rfl)
  have row : ((layoutWidget.withExplicit ⟨[("direction", "horizontal")]⟩).withChildren
      [paragraphWidget, paragraphWidget]).Built :=
    turned.append rfl (List.forall_mem_cons.mpr ⟨leaf _, List.forall_mem_singleton.mpr (leaf _)⟩)
  exact layoutWidget_built.append rfl
    (List.forall_mem_cons.mpr ⟨leaf _, List.forall_mem_singleton.mpr row⟩)

theorem column_speaks (subs : Substitutions) : column.Speaks subs := by
  have leaves : column.leaves = [_, _, _] := rfl
  rw [Node.Speaks, leaves]
  simp only [List.forall_mem_cons]
  exact ⟨⟨_, rfl⟩, ⟨_, rfl⟩, ⟨_, rfl⟩, List.forall_mem_nil _⟩

/-- A render of a built tree draws each leaf once, in the order of the walk, and does not fail.
The regions do not depend on what is drawn. They lie on the canvas, no two of them share a cell,
and they leave no cell over unless some container is empty. -/
theorem render_tiles {root : Node} (built : root.Built) {subs : Substitutions}
    (speaks : root.Speaks subs) (canvas : Canvas) :
    (∃ after, render root subs canvas = (after, none) ∧
      after.draws = canvas.draws ++ (root.placed canvas.area).map (PlacedLeaf.draw subs)) ∧
    (∀ p ∈ root.placed canvas.area, p.leaf.content? subs = some (.ok (p.draw subs).text)) ∧
    (root.placed canvas.area).map PlacedLeaf.leaf = root.leaves ∧
    (∀ p ∈ root.placed canvas.area, canvas.area.contains p.region = true) ∧
    ((root.placed canvas.area).Pairwise fun p q =>
      ∀ x y, ¬ (p.region.HasCell x y ∧ q.region.HasCell x y)) ∧
    ((∀ inner ∈ root.subtrees, inner.isContainer = true → inner.children ≠ []) →
      ∀ x y, canvas.area.HasCell x y → Node.cover x y (root.placed canvas.area) = 1) := by
  have oriented := built.sound.oriented
  have ordered := oriented.map_leaf_placed canvas.area
  refine ⟨⟨_, render_canvas oriented speaks canvas, rfl⟩, ?_, ordered,
    root.contains_of_mem_placed canvas.area, root.pairwise_placed canvas.area, ?_⟩
  · intro p inside
    obtain ⟨text, has⟩ := speaks p.leaf (oriented.leaf_mem_leaves inside)
    rw [has, PlacedLeaf.draw, Node.drawnText_eq has]
  · intro full x y inside
    rw [oriented.cover_placed_eq x y full, if_pos inside]

/-- On a canvas that cannot be divided evenly, the last parts take what is left over. -/
theorem render_tiles_column :
    ∃ after, render column ⟨[("k", "v")]⟩ (Canvas.blank 5 3) = (after, none) ∧
      after.draws = [⟨⟨0, 0, 5, 1⟩, "v"⟩, ⟨⟨0, 1, 2, 2⟩, ""⟩, ⟨⟨2, 1, 3, 2⟩, ""⟩] ∧
      ∀ x y, (Canvas.blank 5 3).area.HasCell x y →
        Node.cover x y (column.placed (Canvas.blank 5 3).area) = 1 := by
  have full : ∀ inner ∈ column.subtrees, inner.isContainer = true → inner.children ≠ [] := by
    have subtrees : column.subtrees = [_, _, _, _, _] := rfl
    rw [subtrees]
    simp only [List.forall_mem_cons]
    exact ⟨fun _ => List.cons_ne_nil _ _, nofun, fun _ => List.cons_ne_nil _ _, nofun, nofun, nofun⟩
  obtain ⟨⟨after, rendered, drawn⟩, -, -, -, -, covered⟩ :=
    render_tiles column_built (column_speaks _) (Canvas.blank 5 3)
  refine ⟨after, rendered, ?_, covered full⟩
  rw [drawn]
  decide +kernel

end TuiTemplate
