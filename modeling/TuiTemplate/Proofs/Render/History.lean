import TuiTemplate.Proofs.Render.Writing

set_option autoImplicit false

namespace TuiTemplate

open Text

/-- A call that changes a canvas, if it is not refused. -/
inductive CanvasCall where
  | draw (d : Draw)
  | clear

namespace Canvas

def after (c : Canvas) : CanvasCall → Canvas
  | .draw d => (DrawTarget.draw c d).1
  | .clear => c.clear

def afterAll (c : Canvas) (calls : List CanvasCall) : Canvas := calls.foldl after c

/-- A canvas of this size and fill on which the draws that it remembers, and no others, were made
since it was blank. -/
structure Logged (width height : Nat) (fill : String) (c : Canvas) : Prop where
  width_eq : c.width = width
  height_eq : c.height = height
  fill_eq : c.fill = fill
  within : ∀ d ∈ c.draws, Region.contains ⟨0, 0, width, height⟩ d.region = true
  grid_eq : c.grid = c.draws.foldl paint (blankGrid width height fill)

section logged

variable {width height : Nat} {fill : String} {c : Canvas}

theorem logged_blank (width height : Nat) (fill : String) :
    Logged width height fill (blank width height fill) where
  width_eq := rfl
  height_eq := rfl
  fill_eq := rfl
  within := fun _ inside => nomatch inside
  grid_eq := rfl

namespace Logged

theorem area_eq (logged : Logged width height fill c) : c.area = ⟨0, 0, width, height⟩ := by
  rw [area, logged.width_eq, logged.height_eq]

theorem clear (logged : Logged width height fill c) : Logged width height fill c.clear := by
  rw [Canvas.clear, logged.width_eq, logged.height_eq, logged.fill_eq]
  exact logged_blank width height fill

theorem drawn (logged : Logged width height fill c) {d : Draw}
    (within : c.area.contains d.region = true) : Logged width height fill (c.drawn [d]) where
  width_eq := logged.width_eq
  height_eq := logged.height_eq
  fill_eq := logged.fill_eq
  within := by
    intro other inside
    rcases List.mem_append.mp inside with earlier | last
    · exact logged.within other earlier
    · rw [List.mem_singleton.mp last, ← logged.area_eq]
      exact within
  grid_eq := by
    simp only [Canvas.drawn, List.foldl_append, logged.grid_eq]

theorem after (logged : Logged width height fill c) (call : CanvasCall) :
    Logged width height fill (c.after call) := by
  cases call with
  | clear => exact logged.clear
  | draw d =>
      rw [Canvas.after]
      cases within : c.area.contains d.region with
      | true =>
          rw [draw_of_contains within]
          exact logged.drawn within
      | false =>
          rw [draw_of_not_contains within]
          exact logged

theorem afterAll (logged : Logged width height fill c) (calls : List CanvasCall) :
    Logged width height fill (c.afterAll calls) := by
  induction calls generalizing c with
  | nil => exact logged
  | cons call rest ih => exact ih (logged.after call)

theorem isGrid (logged : Logged width height fill c) : IsGrid width height c.grid := by
  rw [logged.grid_eq]
  exact isGrid_foldl_paint logged.within (isGrid_blankGrid width height fill)

/-- A cell holds what the latest draw put on it, or the fill if none did. -/
theorem cellAt_eq (logged : Logged width height fill c) {x y : Nat} (column : x < width)
    (row : y < height) :
    cellAt c.grid x y =
      some (((c.draws.reverse.findSome? fun d => d.charAt? x y).map String.singleton).getD
        fill) := by
  rw [logged.grid_eq, cellAt_foldl_paint logged.within (isGrid_blankGrid width height fill),
    cellAt_blankGrid fill column row, Option.or_some]

end Logged

end logged

/-- However a canvas was drawn on and cleared, each cell shows the latest of the draws in the log
that has a character there. A region outside the canvas is refused and changes nothing. Any other
is drawn character by character, on cells of the region that the grid has. -/
theorem grid_shows_log (width height : Nat) (fill : String) (calls : List CanvasCall) :
    let c := (blank width height fill).afterAll calls
    (∀ x < width, ∀ y < height,
      cellAt c.grid x y =
        some (((c.draws.reverse.findSome? fun d => d.charAt? x y).map String.singleton).getD
          fill)) ∧
      (∀ d : Draw, Region.contains ⟨0, 0, width, height⟩ d.region = false →
        ∃ failure : Failure, DrawTarget.draw c d = (c, some (.failure failure)) ∧
          failure.kind = .render "Region lies outside the canvas") ∧
      ∀ d : Draw, Region.contains ⟨0, 0, width, height⟩ d.region = true →
        ∃ next : Canvas, DrawTarget.draw c d = (next, none) ∧ next.draws = c.draws ++ [d] ∧
          (∀ x y : Nat, ¬ d.region.HasCell x y → cellAt next.grid x y = cellAt c.grid x y) ∧
          d.writes.foldlM CellWrite.put? c.grid = some next.grid := by
  intro c
  have logged : Logged width height fill c := (logged_blank width height fill).afterAll calls
  refine ⟨fun x column y row => logged.cellAt_eq column row, ?_, ?_⟩
  · intro d beyond
    rw [← logged.area_eq] at beyond
    exact ⟨c.outside d.region, draw_of_not_contains beyond, rfl⟩
  · intro d within
    refine ⟨c.drawn [d], draw_of_contains (by rw [logged.area_eq]; exact within), rfl, ?_, ?_⟩
    · intro x y outside
      have untouched : d.charAt? x y = none := if_neg outside
      have cell : cellAt (paint c.grid d) x y = _ := cellAt_paint within logged.isGrid x y
      rw [untouched, Option.map_none, Option.none_or] at cell
      exact cell
    · exact foldlM_writes within logged.isGrid

end Canvas

end TuiTemplate
