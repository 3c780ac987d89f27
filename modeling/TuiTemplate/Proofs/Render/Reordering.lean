import TuiTemplate.Proofs.Render.Paint
import TuiTemplate.Proofs.Render.Tiling

set_option autoImplicit false

namespace TuiTemplate

def Region.Apart (r other : Region) : Prop := ∀ x y, ¬ (r.HasCell x y ∧ other.HasCell x y)

theorem Region.Apart.symm {r other : Region} (apart : r.Apart other) : other.Apart r :=
  fun x y both => apart x y both.symm

/-- At most one of two draws into regions that are apart puts a character on a cell. -/
theorem Draw.charAt?_eq_none_of_apart {d e : Draw} (apart : d.region.Apart e.region) (x y : Nat) :
    d.charAt? x y = none ∨ e.charAt? x y = none := by
  cases first : d.charAt? x y with
  | none => exact .inl rfl
  | some c =>
      cases second : e.charAt? x y with
      | none => exact .inr rfl
      | some other =>
          exact absurd ⟨hasCell_of_charAt? first, hasCell_of_charAt? second⟩ (apart x y)

def DrawsApart (draws : List Draw) : Prop := draws.Pairwise fun d e => d.region.Apart e.region

section reordering

variable {width height : Nat} {grid : List (List String)}

/-- Draws that are apart may change places. -/
theorem paint_comm {d e : Draw} (shape : IsGrid width height grid)
    (first : Region.contains ⟨0, 0, width, height⟩ d.region = true)
    (second : Region.contains ⟨0, 0, width, height⟩ e.region = true)
    (apart : d.region.Apart e.region) :
    paint (paint grid d) e = paint (paint grid e) d := by
  have afterFirst := isGrid_paint first shape
  have afterSecond := isGrid_paint second shape
  apply (isGrid_paint second afterFirst).ext (isGrid_paint first afterSecond)
  intro x y
  rw [cellAt_paint second afterFirst, cellAt_paint first shape, cellAt_paint first afterSecond,
    cellAt_paint second shape]
  rcases Draw.charAt?_eq_none_of_apart apart x y with none | none
  · rw [none, Option.map_none, Option.none_or, Option.none_or]
  · rw [none, Option.map_none, Option.none_or, Option.none_or]

/-- Draws that are apart from each other give the same picture in any order. -/
theorem foldl_paint_perm {draws reordered : List Draw} (perm : reordered.Perm draws)
    (within : ∀ d ∈ draws, Region.contains ⟨0, 0, width, height⟩ d.region = true)
    (apart : DrawsApart draws) (shape : IsGrid width height grid) :
    reordered.foldl paint grid = draws.foldl paint grid := by
  induction perm generalizing grid with
  | nil => rfl
  | cons d perm ih =>
      rw [List.foldl_cons, List.foldl_cons]
      exact ih (fun other inside => within other (List.mem_cons_of_mem d inside))
        (List.pairwise_cons.mp apart).2 (isGrid_paint (within d List.mem_cons_self) shape)
  | swap d e rest =>
      have first := within d List.mem_cons_self
      have second := within e (List.mem_cons_of_mem d List.mem_cons_self)
      have different : d.region.Apart e.region :=
        (List.pairwise_cons.mp apart).1 e List.mem_cons_self
      rw [List.foldl_cons, List.foldl_cons, List.foldl_cons, List.foldl_cons,
        paint_comm shape first second different]
  | trans toMiddle fromMiddle ih laterIh =>
      rw [← laterIh within apart shape]
      exact ih (fun d inside => within d (fromMiddle.mem_iff.mp inside))
        ((fromMiddle.pairwise_iff Region.Apart.symm).mpr apart) shape

end reordering

namespace Node

theorem map_region_traceAll_sublist {subs : Substitutions} {children : List Node}
    {regions : List Region}
    (each : ∀ child ∈ children, ∀ region,
      ((child.trace subs region).draws.map Draw.region).Sublist
        ((child.placed region).map PlacedLeaf.region)) :
    ((traceAll subs children regions).draws.map Draw.region).Sublist
      ((placedAll children regions).map PlacedLeaf.region) := by
  induction children generalizing regions with
  | nil => simp [traceAll, placedAll]
  | cons child rest ih =>
      cases regions with
      | nil => simp [traceAll, placedAll]
      | cons region regions =>
          have here := each child List.mem_cons_self region
          have later := @ih regions fun other inside =>
            each other (List.mem_cons_of_mem child inside)
          rw [traceAll, placedAll, List.map_append]
          cases stopped : (child.trace subs region).fault with
          | some fault =>
              rw [Trace.andThen_of_fault stopped]
              exact here.trans (List.sublist_append_left _ _)
          | none =>
              rw [Trace.andThen_of_none stopped, List.map_append]
              exact here.append later

/-- Whatever stops the drawing of a tree, what was drawn until then are texts in the regions of
leaves, for each leaf at most one. -/
theorem map_region_trace_sublist (n : Node) (subs : Substitutions) (region : Region) :
    ((n.trace subs region).draws.map Draw.region).Sublist
      ((n.placed region).map PlacedLeaf.region) := by
  induction n using children_induction generalizing region with
  | step n ih =>
      cases n with
      | container head axis children =>
          rw [trace, placed]
          cases axis head.attributes with
          | error reason => exact List.nil_sublist _
          | ok direction => exact map_region_traceAll_sublist ih
      | leaf head content =>
          rw [trace, placed]
          cases content head subs with
          | error fault => exact List.nil_sublist _
          | ok text => exact List.Sublist.refl _
      | inert head => exact List.nil_sublist _

theorem contains_of_mem_draws_trace (n : Node) (subs : Substitutions) (region : Region) :
    ∀ d ∈ (n.trace subs region).draws, region.contains d.region = true := by
  intro d inside
  have placed := (n.map_region_trace_sublist subs region).subset (List.mem_map_of_mem inside)
  obtain ⟨p, member, same⟩ := List.mem_map.mp placed
  rw [← same]
  exact n.contains_of_mem_placed region p member

theorem drawsApart_trace (n : Node) (subs : Substitutions) (region : Region) :
    DrawsApart (n.trace subs region).draws := by
  have regions : ((n.placed region).map PlacedLeaf.region).Pairwise Region.Apart :=
    List.pairwise_map.mpr (n.pairwise_placed region)
  exact List.pairwise_map.mp (regions.sublist (n.map_region_trace_sublist subs region))

end Node

/-- The draws that a render makes may be made in any order. On a canvas in any state, they are all
taken and leave the same grid as the render, even if the render is stopped by a widget. -/
theorem render_reorder (root : Node) (subs : Substitutions) {canvas : Canvas}
    (shape : IsGrid canvas.width canvas.height canvas.grid) :
    ∃ after failed drawn,
      render root subs canvas = (after, failed) ∧ after.draws = canvas.draws ++ drawn ∧
        ∀ reordered : List Draw, reordered.Perm drawn →
          ∃ other, replay canvas reordered = (other, none) ∧ other.grid = after.grid := by
  let drawn := (root.trace subs canvas.area).draws
  have within : ∀ d ∈ drawn, canvas.area.contains d.region = true :=
    root.contains_of_mem_draws_trace subs canvas.area
  have rendered : render root subs canvas =
      (canvas.drawn drawn, (root.trace subs canvas.area).fault.map (.ofFault root)) := by
    simp only [render, Node.drawOn, DrawTarget.area, drawn, replay_canvas within]
  refine ⟨_, _, drawn, rendered, rfl, fun reordered perm => ?_⟩
  have stillWithin : ∀ d ∈ reordered, canvas.area.contains d.region = true :=
    fun d inside => within d (perm.mem_iff.mp inside)
  refine ⟨_, replay_canvas stillWithin, ?_⟩
  exact foldl_paint_perm perm within (root.drawsApart_trace subs canvas.area) shape

def usedCanvas : Canvas := (Canvas.blank 5 3).drawn [⟨⟨0, 0, 5, 3⟩, "abcde\nfghij"⟩]

theorem isGrid_usedCanvas : IsGrid usedCanvas.width usedCanvas.height usedCanvas.grid := by
  have within : Region.contains ⟨0, 0, 5, 3⟩ ⟨0, 0, 5, 3⟩ = true := by decide
  exact isGrid_paint (d := ⟨⟨0, 0, 5, 3⟩, "abcde\nfghij"⟩) within (isGrid_blankGrid 5 3 " ")

/-- The last of three leaves is drawn first. -/
theorem render_reorder_column :
    ∃ after failed other,
      render column ⟨[("k", "v")]⟩ usedCanvas = (after, failed) ∧
        replay usedCanvas [⟨⟨2, 1, 3, 2⟩, ""⟩, ⟨⟨0, 0, 5, 1⟩, "v"⟩, ⟨⟨0, 1, 2, 2⟩, ""⟩] =
          (other, none) ∧
        other.grid = after.grid ∧ after.lines = ["vbcde", "fghij", "     "] := by
  obtain ⟨after, failed, drawn, rendered, draws, orders⟩ :=
    render_reorder column ⟨[("k", "v")]⟩ isGrid_usedCanvas
  have result : after = (render column ⟨[("k", "v")]⟩ usedCanvas).1 := by rw [rendered]
  have log : usedCanvas.draws ++ drawn =
      usedCanvas.draws ++ [⟨⟨0, 0, 5, 1⟩, "v"⟩, ⟨⟨0, 1, 2, 2⟩, ""⟩, ⟨⟨2, 1, 3, 2⟩, ""⟩] := by
    rw [← draws, result]
    decide +kernel
  have made := List.append_cancel_left log
  obtain ⟨other, replayed, same⟩ := orders
    [⟨⟨2, 1, 3, 2⟩, ""⟩, ⟨⟨0, 0, 5, 1⟩, "v"⟩, ⟨⟨0, 1, 2, 2⟩, ""⟩] (by rw [made]; decide)
  refine ⟨after, failed, other, rendered, replayed, same, ?_⟩
  rw [result]
  decide +kernel

end TuiTemplate
