import TuiTemplate.Proofs.Geometry
import TuiTemplate.Render.Target

set_option autoImplicit false

namespace TuiTemplate

open Text

def cellAt (grid : List (List String)) (x y : Nat) : Option String :=
  grid[y]?.bind fun row => row[x]?

/-- A grid of so many rows of so many cells each. -/
structure IsGrid (width height : Nat) (grid : List (List String)) : Prop where
  rows : grid.length = height
  cells : ∀ row ∈ grid, row.length = width

/-- Grids of one size are told apart by their cells. -/
theorem IsGrid.ext {width height : Nat} {grid other : List (List String)}
    (first : IsGrid width height grid) (second : IsGrid width height other)
    (same : ∀ x y, cellAt grid x y = cellAt other x y) : grid = other := by
  apply List.ext_getElem (by rw [first.rows, second.rows])
  intro y inside otherInside
  have cells (x : Nat) : grid[y][x]? = other[y][x]? := by
    have cell := same x y
    rwa [cellAt, cellAt, List.getElem?_eq_getElem inside, List.getElem?_eq_getElem otherInside,
      Option.bind_some, Option.bind_some] at cell
  exact List.ext_getElem? cells

def Draw.charAt? (d : Draw) (x y : Nat) : Option Char :=
  if d.region.HasCell x y then
    (splitLines d.text)[((y : Int) - d.region.y).toNat]?.bind fun line =>
      line.toList[((x : Int) - d.region.x).toNat]?
  else none

theorem Draw.hasCell_of_charAt? {d : Draw} {x y : Nat} {c : Char} (put : d.charAt? x y = some c) :
    d.region.HasCell x y := by
  unfold charAt? at put
  split at put
  · next inside => exact inside
  · cases put

section overlay

variable {start : Nat} {cells row : List String}

theorem length_overlay (fits : start + cells.length ≤ row.length) :
    (overlay start cells row).length = row.length := by
  simp only [overlay, List.length_append, List.length_take, List.length_drop]
  omega

theorem getElem?_overlay_before (fits : start + cells.length ≤ row.length) {x : Nat}
    (before : x < start) : (overlay start cells row)[x]? = row[x]? := by
  have short : x < (row.take start ++ cells).length := by
    simp only [List.length_append, List.length_take]
    omega
  have first : x < (row.take start).length := by
    rw [List.length_take]
    omega
  rw [overlay, List.getElem?_append_left short, List.getElem?_append_left first,
    List.getElem?_take_of_lt before]

theorem getElem?_overlay_after (fits : start + cells.length ≤ row.length) {x : Nat}
    (after : start ≤ x) :
    (overlay start cells row)[x]? = cells[x - start]?.or row[x]? := by
  have front : (row.take start).length = start := by
    rw [List.length_take]
    omega
  rw [overlay, List.append_assoc, List.getElem?_append_right (by omega), front]
  by_cases inside : x - start < cells.length
  · rw [List.getElem?_append_left inside, List.getElem?_eq_getElem inside, Option.some_or]
  · have beyond : cells.length ≤ x - start := by omega
    have noCell : cells[x - start]? = none := List.getElem?_eq_none beyond
    rw [List.getElem?_append_right beyond, List.getElem?_drop, noCell, Option.none_or]
    congr 1
    omega

end overlay

section paintRows

variable (start width : Nat)

theorem getElem?_paintRows (lines : List (List Char)) (rows : List (List String)) (i : Nat) :
    (paintRows start width lines rows)[i]? =
      match lines[i]? with
      | some line => rows[i]?.map (overlay start ((line.take width).map String.singleton))
      | none => rows[i]? := by
  induction lines generalizing rows i with
  | nil => simp [paintRows]
  | cons line lines ih =>
      cases rows with
      | nil =>
          rw [paintRows]
          · split <;> simp
          · simp
      | cons row rows =>
          rw [paintRows]
          cases i with
          | zero => simp
          | succ i => simp only [List.getElem?_cons_succ, ih]

theorem length_paintRows (lines : List (List Char)) (rows : List (List String)) :
    (paintRows start width lines rows).length = rows.length := by
  induction lines generalizing rows with
  | nil => simp [paintRows]
  | cons line lines ih =>
      cases rows with
      | nil => simp [paintRows]
      | cons row rows => simp [paintRows, ih]

end paintRows

section paint

variable {width height : Nat} {grid : List (List String)} {d : Draw}

theorem paint_eq (filled : d.region.isEmpty = false) :
    paint grid d = grid.take d.region.y.toNat ++
      paintRows d.region.x.toNat d.region.width ((linesOf d.text.toList).take d.region.height)
        (grid.drop d.region.y.toNat) := by
  simp only [paint, filled, Bool.false_eq_true, ↓reduceIte]

variable (within : Region.contains ⟨0, 0, width, height⟩ d.region = true)

include within

/-- The bounds of a region within a grid, without integers. -/
theorem bounds_of_contains :
    d.region.x = d.region.x.toNat ∧ d.region.x.toNat + d.region.width ≤ width ∧
      d.region.y = d.region.y.toNat ∧ d.region.y.toNat + d.region.height ≤ height := by
  rw [Region.contains_iff] at within
  simp only [Region.right, Region.bottom] at within
  omega

theorem hasCell_iff_of_contains (x y : Nat) :
    d.region.HasCell x y ↔
      (d.region.x.toNat ≤ x ∧ x < d.region.x.toNat + d.region.width) ∧
        d.region.y.toNat ≤ y ∧ y < d.region.y.toNat + d.region.height := by
  have bounds := bounds_of_contains within
  simp only [Region.HasCell, Region.right, Region.bottom]
  omega

theorem getElem?_paint_outside (shape : IsGrid width height grid) {y : Nat}
    (outside : ¬ (d.region.y.toNat ≤ y ∧ y < d.region.y.toNat + d.region.height)) :
    (paint grid d)[y]? = grid[y]? := by
  cases filled : d.region.isEmpty with
  | true => rw [paint, if_pos filled]
  | false =>
      have bounds := bounds_of_contains within
      have rows := shape.rows
      have front : (grid.take d.region.y.toNat).length = d.region.y.toNat := by
        rw [List.length_take]
        omega
      rw [paint_eq filled]
      by_cases before : y < d.region.y.toNat
      · rw [List.getElem?_append_left (by omega), List.getElem?_take_of_lt before]
      · have noLine : ((linesOf d.text.toList).take d.region.height)[y - d.region.y.toNat]? =
            none := by
          apply List.getElem?_eq_none
          rw [List.length_take]
          omega
        have place : d.region.y.toNat + (y - d.region.y.toNat) = y := by omega
        rw [List.getElem?_append_right (by omega), front, getElem?_paintRows, noLine]
        simp only [List.getElem?_drop, place]

theorem getElem?_paint_inside (shape : IsGrid width height grid)
    (filled : d.region.isEmpty = false) {y : Nat}
    (inside : d.region.y.toNat ≤ y ∧ y < d.region.y.toNat + d.region.height) :
    (paint grid d)[y]? =
      match (linesOf d.text.toList)[y - d.region.y.toNat]? with
      | some line =>
        grid[y]?.map (overlay d.region.x.toNat ((line.take d.region.width).map String.singleton))
      | none => grid[y]? := by
  have bounds := bounds_of_contains within
  have rows := shape.rows
  have front : (grid.take d.region.y.toNat).length = d.region.y.toNat := by
    rw [List.length_take]
    omega
  have place : d.region.y.toNat + (y - d.region.y.toNat) = y := by omega
  have reached : y - d.region.y.toNat < d.region.height := by omega
  rw [paint_eq filled, List.getElem?_append_right (by omega), front, getElem?_paintRows,
    List.getElem?_drop, place, List.getElem?_take_of_lt reached]

/-- A row has room for a line that is clipped at the width of the region. -/
theorem clipped_fits {row : List String} (full : row.length = width) (line : List Char) :
    d.region.x.toNat + ((line.take d.region.width).map String.singleton).length ≤ row.length := by
  have bounds := bounds_of_contains within
  rw [List.length_map, List.length_take]
  omega

/-- A line that is drawn on a row shows as far as the region reaches. -/
theorem getElem?_overlay_line {row : List String} (full : row.length = width) (cs : List Char)
    (x : Nat) :
    (overlay d.region.x.toNat ((cs.take d.region.width).map String.singleton) row)[x]? =
      if d.region.x.toNat ≤ x ∧ x < d.region.x.toNat + d.region.width then
        (cs[x - d.region.x.toNat]?.map String.singleton).or row[x]?
      else row[x]? := by
  have fits := clipped_fits within full cs
  by_cases before : x < d.region.x.toNat
  · rw [getElem?_overlay_before fits before, if_neg (by omega)]
  · rw [getElem?_overlay_after fits (by omega), List.getElem?_map]
    by_cases inside : x - d.region.x.toNat < d.region.width
    · rw [if_pos (by omega), List.getElem?_take_of_lt inside]
    · have noCell : (cs.take d.region.width)[x - d.region.x.toNat]? = none := by
        apply List.getElem?_eq_none
        rw [List.length_take]
        omega
      rw [if_neg (by omega), noCell, Option.map_none, Option.none_or]

theorem charAt?_eq (x y : Nat) :
    d.charAt? x y =
      if (d.region.x.toNat ≤ x ∧ x < d.region.x.toNat + d.region.width) ∧
          d.region.y.toNat ≤ y ∧ y < d.region.y.toNat + d.region.height then
        (linesOf d.text.toList)[y - d.region.y.toNat]?.bind fun cs => cs[x - d.region.x.toNat]?
      else none := by
  have bounds := bounds_of_contains within
  have column : ((x : Int) - d.region.x).toNat = x - d.region.x.toNat := by omega
  have row : ((y : Int) - d.region.y).toNat = y - d.region.y.toNat := by omega
  simp only [Draw.charAt?, hasCell_iff_of_contains within, column, row, splitLines,
    List.getElem?_map, Option.bind_map, Function.comp_def, String.toList_ofList]

/-- A draw changes the cells for which its text has characters, and no others. -/
theorem cellAt_paint (shape : IsGrid width height grid) (x y : Nat) :
    cellAt (paint grid d) x y =
      ((d.charAt? x y).map String.singleton).or (cellAt grid x y) := by
  cases filled : d.region.isEmpty with
  | true =>
      have outside : ¬ d.region.HasCell x y := Region.not_hasCell_of_isEmpty filled x y
      rw [paint, if_pos filled, Draw.charAt?, if_neg outside, Option.map_none, Option.none_or]
  | false =>
      have bounds := bounds_of_contains within
      have rows := shape.rows
      rw [charAt?_eq within]
      by_cases inside : d.region.y.toNat ≤ y ∧ y < d.region.y.toNat + d.region.height
      · have reached : y < grid.length := by omega
        have found : grid[y]? = some grid[y] := List.getElem?_eq_getElem reached
        have full : grid[y].length = width := shape.cells _ (List.getElem_mem reached)
        rw [cellAt, getElem?_paint_inside within shape filled inside, cellAt, found]
        simp only [inside, and_true]
        cases (linesOf d.text.toList)[y - d.region.y.toNat]? with
        | none => simp
        | some line =>
            simp only [Option.map_some, Option.bind_some, getElem?_overlay_line within full]
            split <;> rfl
      · rw [cellAt, getElem?_paint_outside within shape inside, if_neg fun has => inside has.2,
          Option.map_none, Option.none_or, cellAt]

theorem isGrid_paint (shape : IsGrid width height grid) : IsGrid width height (paint grid d) := by
  have bounds := bounds_of_contains within
  have rows := shape.rows
  cases filled : d.region.isEmpty with
  | true => rwa [paint, if_pos filled]
  | false =>
      constructor
      · rw [paint_eq filled, List.length_append, length_paintRows, List.length_take,
          List.length_drop]
        omega
      · intro row inside
        obtain ⟨y, found⟩ := List.mem_iff_getElem?.mp inside
        by_cases reached : d.region.y.toNat ≤ y ∧ y < d.region.y.toNat + d.region.height
        · rw [getElem?_paint_inside within shape filled reached] at found
          cases drawn : (linesOf d.text.toList)[y - d.region.y.toNat]? with
          | none =>
              rw [drawn] at found
              exact shape.cells row (List.mem_of_getElem? found)
          | some line =>
              rw [drawn] at found
              obtain ⟨old, known, rfl⟩ := Option.map_eq_some_iff.mp found
              have full := shape.cells old (List.mem_of_getElem? known)
              rw [length_overlay (clipped_fits within full line), full]
        · rw [getElem?_paint_outside within shape reached] at found
          exact shape.cells row (List.mem_of_getElem? found)

end paint

/-- After draws a cell holds what the last of them put on it, or else what it held before. -/
theorem cellAt_foldl_paint {width height : Nat} {draws : List Draw}
    (within : ∀ d ∈ draws, Region.contains ⟨0, 0, width, height⟩ d.region = true)
    {grid : List (List String)} (shape : IsGrid width height grid) (x y : Nat) :
    cellAt (draws.foldl paint grid) x y =
      ((draws.reverse.findSome? fun d => d.charAt? x y).map String.singleton).or
        (cellAt grid x y) := by
  induction draws generalizing grid with
  | nil => rfl
  | cons d rest ih =>
      have first := within d List.mem_cons_self
      have later := ih (fun other inside => within other (List.mem_cons_of_mem d inside))
        (isGrid_paint first shape)
      rw [List.foldl_cons, later, cellAt_paint first shape, List.reverse_cons,
        List.findSome?_append, List.findSome?_singleton, Option.map_or, Option.or_assoc]

theorem isGrid_foldl_paint {width height : Nat} {draws : List Draw}
    (within : ∀ d ∈ draws, Region.contains ⟨0, 0, width, height⟩ d.region = true)
    {grid : List (List String)} (shape : IsGrid width height grid) :
    IsGrid width height (draws.foldl paint grid) := by
  induction draws generalizing grid with
  | nil => exact shape
  | cons d rest ih =>
      exact ih (fun other inside => within other (List.mem_cons_of_mem d inside))
        (isGrid_paint (within d List.mem_cons_self) shape)

theorem isGrid_blankGrid (width height : Nat) (fill : String) :
    IsGrid width height (Canvas.blankGrid width height fill) := by
  rw [Canvas.blankGrid_eq]
  constructor
  · exact List.length_replicate
  · intro row inside
    rw [List.eq_of_mem_replicate inside, List.length_replicate]

theorem cellAt_blankGrid {width height x y : Nat} (fill : String) (column : x < width)
    (row : y < height) : cellAt (Canvas.blankGrid width height fill) x y = some fill := by
  rw [cellAt, Canvas.blankGrid_eq, List.getElem?_replicate, if_pos row, Option.bind_some,
    List.getElem?_replicate, if_pos column]

def Canvas.drawn (c : Canvas) (draws : List Draw) : Canvas :=
  { c with grid := draws.foldl paint c.grid, draws := c.draws ++ draws }

theorem Canvas.draw_of_contains {c : Canvas} {d : Draw}
    (within : c.area.contains d.region = true) : DrawTarget.draw c d = (c.drawn [d], none) := by
  have accepted : c.draw d = .ok (c.drawn [d]) := if_pos within
  simp only [DrawTarget.draw, accepted]

theorem Canvas.draw_of_not_contains {c : Canvas} {d : Draw}
    (beyond : c.area.contains d.region = false) :
    DrawTarget.draw c d = (c, some (.failure (c.outside d.region))) := by
  have refused : c.draw d = .error (c.outside d.region) := by
    rw [Canvas.draw, beyond]
    rfl
  simp only [DrawTarget.draw, refused]

theorem replay_canvas {c : Canvas} {draws : List Draw}
    (within : ∀ d ∈ draws, c.area.contains d.region = true) :
    replay c draws = (c.drawn draws, none) := by
  induction draws generalizing c with
  | nil => simp [replay, Canvas.drawn]
  | cons d rest ih =>
      have accepted := Canvas.draw_of_contains (within d List.mem_cons_self)
      have later : replay (c.drawn [d]) rest = ((c.drawn [d]).drawn rest, none) :=
        ih fun other inside => within other (List.mem_cons_of_mem d inside)
      simp only [replay, accepted, later]
      simp [Canvas.drawn]

end TuiTemplate
