import TuiTemplate.Proofs.Render.Paint

set_option autoImplicit false

namespace TuiTemplate

open Text

structure CellWrite where
  x : Int
  y : Int
  char : Char

namespace CellWrite

/-- Sets the character on a cell of the grid. Indices outside the grid are refused. -/
def put? (grid : List (List String)) (w : CellWrite) : Option (List (List String)) :=
  if 0 ≤ w.x ∧ 0 ≤ w.y ∧ (cellAt grid w.x.toNat w.y.toNat).isSome then
    some (grid.modify w.y.toNat fun row => row.set w.x.toNat (String.singleton w.char))
  else none

def charAt? (w : CellWrite) (x y : Nat) : Option Char :=
  if w.x = x ∧ w.y = y then some w.char else none

end CellWrite

/-- The characters of a line, set one after the other from column `x` on. -/
def lineWrites (x y : Int) : List Char → List CellWrite
  | [] => []
  | c :: rest => ⟨x, y, c⟩ :: lineWrites (x + 1) y rest

/-- Lines that are clipped at a width, set one below the other from row `y` on. -/
def blockWrites (x : Int) (width : Nat) (y : Int) : List (List Char) → List CellWrite
  | [] => []
  | line :: rest => lineWrites x y (line.take width) ++ blockWrites x width (y + 1) rest

/-- The characters that a draw sets, line by line and each line from the left. -/
def Draw.writes (d : Draw) : List CellWrite :=
  if d.region.isEmpty then []
  else
    blockWrites d.region.x d.region.width d.region.y
      ((linesOf d.text.toList).take d.region.height)

section put

variable {width height : Nat} {grid : List (List String)}

theorem isSome_cellAt (shape : IsGrid width height grid) {x y : Nat} (column : x < width)
    (row : y < height) : (cellAt grid x y).isSome = true := by
  have reached : y < grid.length := by
    rw [shape.rows]
    exact row
  have full : grid[y].length = width := shape.cells _ (List.getElem_mem reached)
  rw [cellAt, List.getElem?_eq_getElem reached, Option.bind_some,
    List.getElem?_eq_getElem (by omega), Option.isSome_some]

theorem isGrid_modify_set (shape : IsGrid width height grid) (x y : Nat) (cell : String) :
    IsGrid width height (grid.modify y fun row => row.set x cell) := by
  constructor
  · rw [List.length_modify]
    exact shape.rows
  · intro row inside
    obtain ⟨i, found⟩ := List.mem_iff_getElem?.mp inside
    rw [List.getElem?_modify] at found
    obtain ⟨old, known, rfl⟩ := Option.map_eq_some_iff.mp found
    have full := shape.cells old (List.mem_of_getElem? known)
    by_cases here : y = i
    · rw [if_pos here, List.length_set, full]
    · rw [if_neg here, full]

theorem cellAt_modify_set {x y : Nat} (has : (cellAt grid x y).isSome = true) (cell : String)
    (column row : Nat) :
    cellAt (grid.modify y fun line => line.set x cell) column row =
      if x = column ∧ y = row then some cell else cellAt grid column row := by
  rw [cellAt, List.getElem?_modify, cellAt]
  by_cases sameRow : y = row
  · subst sameRow
    rw [cellAt] at has
    obtain ⟨found, known⟩ := Option.isSome_iff_exists.mp has
    obtain ⟨line, present, held⟩ := Option.bind_eq_some_iff.mp known
    have long : x < line.length := (List.getElem?_eq_some_iff.mp held).1
    simp only [present, Option.map_eq_map, Option.map_some, Option.bind_some, if_true, and_true,
      List.getElem?_set, long]
  · have other : ¬ (x = column ∧ y = row) := fun both => sameRow both.2
    rw [if_neg other]
    cases grid[row]? with
    | none => rfl
    | some line => simp only [sameRow, ↓reduceIte, Option.map_eq_map, Option.map_some]

/-- A write within a grid is taken and changes its cell only. -/
theorem CellWrite.exists_put? (shape : IsGrid width height grid) {w : CellWrite}
    (within : Region.HasCell ⟨0, 0, width, height⟩ w.x w.y) :
    ∃ after, w.put? grid = some after ∧ IsGrid width height after ∧
      ∀ x y, cellAt after x y = ((w.charAt? x y).map String.singleton).or (cellAt grid x y) := by
  simp only [Region.HasCell, Region.right, Region.bottom] at within
  have has := isSome_cellAt shape (x := w.x.toNat) (y := w.y.toNat) (by omega) (by omega)
  have taken : 0 ≤ w.x ∧ 0 ≤ w.y ∧ (cellAt grid w.x.toNat w.y.toNat).isSome = true :=
    ⟨by omega, by omega, has⟩
  refine ⟨_, if_pos taken, isGrid_modify_set shape _ _ _, ?_⟩
  intro x y
  have place : w.x.toNat = x ∧ w.y.toNat = y ↔ w.x = x ∧ w.y = y := by omega
  rw [cellAt_modify_set has, charAt?]
  by_cases here : w.x = x ∧ w.y = y
  · rw [if_pos here, if_pos (place.mpr here), Option.map_some, Option.some_or]
  · rw [if_neg here, if_neg fun same => here (place.mp same), Option.map_none, Option.none_or]

/-- After writes within a grid, a cell holds what the last of them put on it, or else what it held
before. -/
theorem exists_foldlM_put? {writes : List CellWrite}
    (within : ∀ w ∈ writes, Region.HasCell ⟨0, 0, width, height⟩ w.x w.y)
    (shape : IsGrid width height grid) :
    ∃ after, writes.foldlM CellWrite.put? grid = some after ∧ IsGrid width height after ∧
      ∀ x y, cellAt after x y =
        ((writes.reverse.findSome? fun w => w.charAt? x y).map String.singleton).or
          (cellAt grid x y) := by
  induction writes generalizing grid with
  | nil => exact ⟨grid, rfl, shape, fun x y => rfl⟩
  | cons w rest ih =>
      -- the first write comes last in the search, behind all that were made after it
      obtain ⟨first, taken, firstShape, firstCells⟩ :=
        CellWrite.exists_put? shape (within w List.mem_cons_self)
      obtain ⟨after, later, afterShape, afterCells⟩ :=
        ih (fun other inside => within other (List.mem_cons_of_mem w inside)) firstShape
      refine ⟨after, ?_, afterShape, ?_⟩
      · rw [List.foldlM_cons, taken]
        exact later
      · intro x y
        rw [afterCells, firstCells, List.reverse_cons, List.findSome?_append,
          List.findSome?_singleton, Option.map_or, Option.or_assoc]

end put

section writes

theorem findSome?_lineWrites (start row : Int) (cs : List Char) (x y : Nat) :
    ((lineWrites start row cs).reverse.findSome? fun w => w.charAt? x y) =
      if row = y ∧ start ≤ x then cs[(x - start).toNat]? else none := by
  induction cs generalizing start with
  | nil => simp [lineWrites]
  | cons c rest ih =>
      rw [lineWrites, List.reverse_cons, List.findSome?_append, ih, List.findSome?_singleton,
        CellWrite.charAt?]
      by_cases here : start = x ∧ row = y
      · have passed : ¬ (row = y ∧ start + 1 ≤ x) := by omega
        have reached : row = y ∧ start ≤ x := by omega
        have first : (x - start).toNat = 0 := by omega
        rw [if_pos here, if_neg passed, if_pos reached, first]
        rfl
      · rw [if_neg here, Option.or_none]
        by_cases beyond : row = y ∧ start + 1 ≤ x
        · have reached : row = y ∧ start ≤ x := by omega
          have next : (x - start).toNat = (x - (start + 1)).toNat + 1 := by omega
          rw [if_pos beyond, if_pos reached, next, List.getElem?_cons_succ]
        · have before : ¬ (row = y ∧ start ≤ x) := by omega
          rw [if_neg beyond, if_neg before]

theorem findSome?_blockWrites (start : Int) (width : Nat) (top : Int) (lines : List (List Char))
    (x y : Nat) :
    ((blockWrites start width top lines).reverse.findSome? fun w => w.charAt? x y) =
      if (start ≤ x ∧ x < start + width) ∧ top ≤ y then
        lines[(y - top).toNat]?.bind fun cs => cs[(x - start).toNat]?
      else none := by
  induction lines generalizing top with
  | nil => simp [blockWrites]
  | cons line rest ih =>
      rw [blockWrites, List.reverse_append, List.findSome?_append, ih, findSome?_lineWrites]
      -- the rows below the first do not reach it, and the first is clipped
      by_cases here : top = y
      · have passed : ¬ ((start ≤ x ∧ x < start + width) ∧ top + 1 ≤ y) := by omega
        have first : (y - top).toNat = 0 := by omega
        rw [if_neg passed, Option.none_or, first, List.getElem?_cons_zero, Option.bind_some]
        by_cases inside : start ≤ x ∧ x < start + width
        · have shown : (x - start).toNat < width := by omega
          rw [if_pos ⟨here, inside.1⟩, if_pos ⟨inside, by omega⟩, List.getElem?_take_of_lt shown]
        · have outside : ¬ ((start ≤ x ∧ x < start + width) ∧ top ≤ y) := fun both => inside both.1
          rw [if_neg outside]
          by_cases reached : top = y ∧ start ≤ x
          · have clipped : (line.take width).length ≤ (x - start).toNat := by
              rw [List.length_take]
              omega
            rw [if_pos reached, List.getElem?_eq_none clipped]
          · rw [if_neg reached]
      · rw [if_neg fun both : top = y ∧ start ≤ x => here both.1, Option.or_none]
        by_cases below : (start ≤ x ∧ x < start + width) ∧ top + 1 ≤ y
        · have next : (y - top).toNat = (y - (top + 1)).toNat + 1 := by omega
          rw [if_pos below, if_pos ⟨below.1, by omega⟩, next, List.getElem?_cons_succ]
        · rw [if_neg below, if_neg (by omega)]

/-- What the writes of a draw put on a cell is the character that its text has there. -/
theorem Draw.findSome?_writes (d : Draw) (x y : Nat) :
    (d.writes.reverse.findSome? fun w => w.charAt? x y) = d.charAt? x y := by
  cases filled : d.region.isEmpty with
  | true =>
      have outside : ¬ d.region.HasCell x y := Region.not_hasCell_of_isEmpty filled x y
      rw [writes, if_pos filled, charAt?, if_neg outside]
      rfl
  | false =>
      have some : ¬ d.region.isEmpty = true := by
        rw [filled]
        exact Bool.false_ne_true
      rw [writes, if_neg some, findSome?_blockWrites, charAt?, splitLines, List.getElem?_map,
        Option.bind_map]
      simp only [Function.comp_def, String.toList_ofList, Region.HasCell, Region.right,
        Region.bottom]
      by_cases cell : (d.region.x ≤ x ∧ x < d.region.x + d.region.width) ∧
          d.region.y ≤ y ∧ y < d.region.y + d.region.height
      · have reached : ((y : Int) - d.region.y).toNat < d.region.height := by omega
        rw [if_pos cell, if_pos ⟨cell.1, cell.2.1⟩, List.getElem?_take_of_lt reached]
      · rw [if_neg cell]
        split
        · next strip =>
          have noLine : ((linesOf d.text.toList).take d.region.height).length ≤
              ((y : Int) - d.region.y).toNat := by
            rw [List.length_take]
            omega
          rw [List.getElem?_eq_none noLine, Option.bind_none]
        · rfl

theorem mem_lineWrites {start row : Int} {cs : List Char} {w : CellWrite}
    (inside : w ∈ lineWrites start row cs) :
    w.y = row ∧ start ≤ w.x ∧ w.x < start + cs.length := by
  induction cs generalizing start with
  | nil => cases inside
  | cons c rest ih =>
      rw [List.length_cons]
      rcases List.mem_cons.mp inside with rfl | later
      · refine ⟨rfl, Int.le_refl _, ?_⟩
        change start < start + (rest.length + 1 : Nat)
        omega
      · have below := ih later
        omega

theorem mem_blockWrites {start top : Int} {width : Nat} {lines : List (List Char)} {w : CellWrite}
    (inside : w ∈ blockWrites start width top lines) :
    (start ≤ w.x ∧ w.x < start + width) ∧ top ≤ w.y ∧ w.y < top + lines.length := by
  induction lines generalizing top with
  | nil => cases inside
  | cons line rest ih =>
      rw [List.length_cons]
      rcases List.mem_append.mp inside with here | later
      · have place := mem_lineWrites here
        rw [List.length_take] at place
        omega
      · have below := ih later
        omega

/-- A draw sets cells of its region only. -/
theorem hasCell_of_mem_writes {d : Draw} : ∀ w ∈ d.writes, d.region.HasCell w.x w.y := by
  intro w inside
  unfold Draw.writes at inside
  split at inside
  · cases inside
  · have place := mem_blockWrites inside
    rw [List.length_take] at place
    unfold Region.HasCell Region.right Region.bottom
    omega

end writes

/-- The characters of a draw within a grid can be set one after the other, each on a cell that the
grid has, and this makes up the whole draw. -/
theorem foldlM_writes {width height : Nat} {grid : List (List String)} {d : Draw}
    (within : Region.contains ⟨0, 0, width, height⟩ d.region = true)
    (shape : IsGrid width height grid) :
    d.writes.foldlM CellWrite.put? grid = some (paint grid d) := by
  obtain ⟨after, taken, afterShape, cells⟩ := exists_foldlM_put?
    (fun w inside => Region.hasCell_of_contains within (hasCell_of_mem_writes w inside)) shape
  have same : after = paint grid d := by
    apply afterShape.ext (isGrid_paint within shape)
    intro x y
    rw [cells, d.findSome?_writes, cellAt_paint within shape]
  rw [taken, same]

end TuiTemplate
