import TuiTemplate.Proofs.Render.Paint
import TuiTemplate.Proofs.Render.Tiling

set_option autoImplicit false

namespace TuiTemplate

open Text

/-- Whether a cell lies in the region of a leaf and, in the lines of the text of that leaf, at the
place of a character. -/
def Node.Shows (root : Node) (subs : Substitutions) (area : Region) (x y : Nat) (c : Char) :
    Prop :=
  ∃ p ∈ root.placed area, p.region.HasCell x y ∧
    ∃ text line, p.leaf.content? subs = some (.ok text) ∧
      (splitLines text)[((y : Int) - p.region.y).toNat]? = some line ∧
      line.toList[((x : Int) - p.region.x).toNat]? = some c

section shows

variable {root : Node} {subs : Substitutions} {area : Region} {x y : Nat} {c : Char}

theorem shows_iff (oriented : root.Oriented) (speaks : root.Speaks subs) :
    root.Shows subs area x y c ↔ ∃ d ∈ root.draws subs area, d.charAt? x y = some c := by
  constructor
  · rintro ⟨p, inside, cell, text, line, has, row, column⟩
    refine ⟨p.draw subs, List.mem_map_of_mem inside, ?_⟩
    rw [Draw.charAt?, PlacedLeaf.draw, if_pos cell, Node.drawnText_eq has, row, Option.bind_some,
      column]
  · rintro ⟨d, drawn, put⟩
    obtain ⟨p, inside, rfl⟩ := List.mem_map.mp drawn
    have cell := Draw.hasCell_of_charAt? put
    obtain ⟨text, has⟩ := speaks p.leaf (oriented.leaf_mem_leaves inside)
    rw [Draw.charAt?, if_pos cell, PlacedLeaf.draw, Node.drawnText_eq has] at put
    obtain ⟨line, row, column⟩ := Option.bind_eq_some_iff.mp put
    exact ⟨p, inside, cell, text, line, has, row, column⟩

/-- Leaves do not share cells, so that no two draws put characters on one cell. -/
theorem charAt?_unique {d e : Draw} (first : d ∈ root.draws subs area)
    (second : e ∈ root.draws subs area) {other : Char} (put : d.charAt? x y = some c)
    (putOther : e.charAt? x y = some other) : c = other := by
  obtain ⟨p, inside, rfl⟩ := List.mem_map.mp first
  obtain ⟨q, otherInside, rfl⟩ := List.mem_map.mp second
  obtain rfl := Node.eq_of_mem_placed_of_hasCell x y inside otherInside
    (Draw.hasCell_of_charAt? put) (Draw.hasCell_of_charAt? putOther)
  rw [put] at putOther
  exact Option.some.inj putOther

end shows

/-- After a render on a fresh canvas, a cell holds the character that its leaf shows there, or
else the fill. -/
theorem cellAt_render {root : Node} (oriented : root.Oriented) {subs : Substitutions}
    (speaks : root.Speaks subs) (width height : Nat) (fill : String) :
    ∃ after, render root subs (Canvas.blank width height fill) = (after, none) ∧
      ∀ x < width, ∀ y < height,
        (∀ c, root.Shows subs ⟨0, 0, width, height⟩ x y c →
          cellAt after.grid x y = some (String.singleton c)) ∧
        ((∀ c, ¬ root.Shows subs ⟨0, 0, width, height⟩ x y c) →
          cellAt after.grid x y = some fill) := by
  refine ⟨_, render_canvas oriented speaks _, ?_⟩
  intro x column y row
  have cell : cellAt ((Canvas.blank width height fill).drawn
      (root.draws subs (Canvas.blank width height fill).area)).grid x y = _ :=
    cellAt_foldl_paint (root.contains_of_mem_draws subs ⟨0, 0, width, height⟩)
      (isGrid_blankGrid width height fill) x y
  rw [cell, cellAt_blankGrid fill column row]
  simp only [shows_iff oriented speaks]
  cases found : (root.draws subs ⟨0, 0, width, height⟩).reverse.findSome? fun d =>
      d.charAt? x y with
  | none =>
      rw [List.findSome?_eq_none_iff] at found
      refine ⟨?_, fun _ => rfl⟩
      rintro c ⟨d, inside, put⟩
      rw [found d (List.mem_reverse.mpr inside)] at put
      cases put
  | some drawn =>
      obtain ⟨d, inside, put⟩ := List.exists_of_findSome?_eq_some found
      rw [List.mem_reverse] at inside
      constructor
      · rintro c ⟨e, otherInside, putOther⟩
        rw [charAt?_unique inside otherInside put putOther]
        rfl
      · intro nothing
        exact absurd ⟨d, inside, put⟩ (nothing drawn)

/-- A text of two lines in a region that is one row high. -/
theorem cellAt_render_column :
    ∃ after, render column ⟨[("k", "hi\x0cthere")]⟩ (Canvas.blank 5 3 ".") = (after, none) ∧
      cellAt after.grid 1 0 = some "i" ∧ cellAt after.grid 4 0 = some "." := by
  have oriented := column_built.sound.oriented
  have speaks := column_speaks ⟨[("k", "hi\x0cthere")]⟩
  obtain ⟨after, rendered, cells⟩ := cellAt_render oriented speaks 5 3 "."
  refine ⟨after, rendered, (cells 1 (by decide) 0 (by decide)).1 'i' ?_,
    (cells 4 (by decide) 0 (by decide)).2 ?_⟩
  · exact (shows_iff oriented speaks).mpr (by decide +kernel)
  · have nothing : ∀ d ∈ column.draws ⟨[("k", "hi\x0cthere")]⟩ ⟨0, 0, 5, 3⟩,
        d.charAt? 4 0 = none := by decide +kernel
    intro c shown
    obtain ⟨d, inside, put⟩ := (shows_iff oriented speaks).mp shown
    rw [nothing d inside] at put
    cases put

end TuiTemplate
