import TuiTemplate.Proofs.Geometry

set_option autoImplicit false

namespace TuiTemplate

section stretches

variable {start stop otherStart otherStop : Int}

/-- Two stretches of an axis have a place in common if neither is empty and each begins before the
other ends. The later of the two beginnings is such a place. -/
theorem exists_common_place_iff :
    (∃ place, (start ≤ place ∧ place < stop) ∧ otherStart ≤ place ∧ place < otherStop) ↔
      (start < stop ∧ otherStart < otherStop) ∧ start < otherStop ∧ otherStart < stop := by
  constructor
  · rintro ⟨place, here, there⟩
    omega
  · intro meet
    refine ⟨max start otherStart, ?_, ?_⟩
    · omega
    · omega

/-- A stretch that is not empty lies within another if its first and its last place do. -/
theorem forall_place_iff (some : otherStart < otherStop) :
    (∀ place, otherStart ≤ place → place < otherStop → start ≤ place ∧ place < stop) ↔
      start ≤ otherStart ∧ otherStop ≤ stop := by
  constructor
  · intro within
    have first := within otherStart (Int.le_refl _) some
    have last := within (otherStop - 1) (by omega) (by omega)
    omega
  · intro bounds place after before
    omega

end stretches

namespace Region

variable {r other inner : Region}

theorem isEmpty_eq_false_iff : r.isEmpty = false ↔ r.x < r.right ∧ r.y < r.bottom := by
  simp only [isEmpty, Bool.or_eq_false_iff, beq_eq_false_iff_ne]
  unfold right bottom
  omega

theorem overlaps_iff :
    r.overlaps other = true ↔
      (r.isEmpty = false ∧ other.isEmpty = false) ∧
        (r.x < other.right ∧ other.x < r.right) ∧ r.y < other.bottom ∧ other.y < r.bottom := by
  simp only [overlaps, Bool.and_eq_true, Bool.not_eq_true', decide_eq_true_eq, and_assoc]

/-- Regions overlap if they have a cell in common. -/
theorem overlaps_iff_exists_hasCell :
    r.overlaps other = true ↔ ∃ x y, r.HasCell x y ∧ other.HasCell x y := by
  rw [overlaps_iff, isEmpty_eq_false_iff, isEmpty_eq_false_iff]
  constructor
  · rintro ⟨⟨here, there⟩, columns, rows⟩
    obtain ⟨x, inHere, inThere⟩ := exists_common_place_iff.mpr ⟨⟨here.1, there.1⟩, columns⟩
    obtain ⟨y, downHere, downThere⟩ := exists_common_place_iff.mpr ⟨⟨here.2, there.2⟩, rows⟩
    exact ⟨x, y, ⟨inHere, downHere⟩, inThere, downThere⟩
  · rintro ⟨x, y, here, there⟩
    obtain ⟨wide, columns⟩ := exists_common_place_iff.mp ⟨x, here.1, there.1⟩
    obtain ⟨high, rows⟩ := exists_common_place_iff.mp ⟨y, here.2, there.2⟩
    exact ⟨⟨⟨wide.1, high.1⟩, wide.2, high.2⟩, columns, rows⟩

theorem overlaps_comm (r other : Region) : r.overlaps other = other.overlaps r := by
  rw [Bool.eq_iff_iff, overlaps_iff_exists_hasCell, overlaps_iff_exists_hasCell]
  simp only [and_comm]

/-- A region that is not empty is contained if all its cells are. -/
theorem contains_iff_forall_hasCell (some : inner.isEmpty = false) :
    r.contains inner = true ↔ ∀ x y, inner.HasCell x y → r.HasCell x y := by
  obtain ⟨wide, high⟩ := isEmpty_eq_false_iff.mp some
  constructor
  · intro within x y cell
    exact hasCell_of_contains within cell
  · intro all
    -- The cells of the first row tell the columns, and those of the first column tell the rows.
    have columns := (forall_place_iff wide).mp fun x left right =>
      (all x inner.y ⟨⟨left, right⟩, Int.le_refl _, high⟩).1
    have rows := (forall_place_iff high).mp fun y top bottom =>
      (all inner.x y ⟨⟨Int.le_refl _, wide⟩, top, bottom⟩).2
    exact contains_iff.mpr ⟨columns.1, rows.1, columns.2, rows.2⟩

/-- Regions that contain each other begin at one cell and have the same extents, even if they have
no cells. -/
theorem contains_antisymm (outward : r.contains other = true)
    (inward : other.contains r = true) : r = other := by
  rw [contains_iff] at outward inward
  obtain ⟨x, y, width, height⟩ := r
  obtain ⟨x', y', width', height'⟩ := other
  simp only [right, bottom] at outward inward
  rw [Region.mk.injEq]
  omega

theorem overlaps_of_contains (within : r.contains inner = true)
    (meet : inner.overlaps other = true) : r.overlaps other = true := by
  rw [overlaps_iff_exists_hasCell] at *
  obtain ⟨x, y, cell, common⟩ := meet
  exact ⟨x, y, hasCell_of_contains within cell, common⟩

/-- Overlapping and containing are about cells: those that two regions share, and those that one
has and the other has too. Containing orders all regions, and what contains a region overlaps
whatever that region overlaps. -/
theorem overlaps_contains_cells (a b c : Region) :
    (a.overlaps b = true ↔ ∃ x y, a.HasCell x y ∧ b.HasCell x y) ∧
      a.overlaps b = b.overlaps a ∧
      (b.isEmpty = false →
        (a.contains b = true ↔ ∀ x y, b.HasCell x y → a.HasCell x y)) ∧
      a.contains a = true ∧
      (a.contains b = true → b.contains c = true → a.contains c = true) ∧
      (a.contains b = true → b.contains a = true → a = b) ∧
      (a.contains b = true → b.overlaps c = true → a.overlaps c = true) :=
  ⟨overlaps_iff_exists_hasCell, overlaps_comm a b, contains_iff_forall_hasCell, contains_refl a,
    contains_trans, contains_antisymm, overlaps_of_contains⟩

/-- A region that begins left of and above the first cell, a part of it, and the last cell of that
part. -/
theorem overlaps_contains_cells_corner :
    (⟨-2, -1, 5, 4⟩ : Region).contains ⟨0, 0, 3, 3⟩ = true ∧
      (⟨0, 0, 3, 3⟩ : Region).isEmpty = false ∧
      (⟨0, 0, 3, 3⟩ : Region).contains ⟨2, 2, 1, 1⟩ = true ∧
      (⟨0, 0, 3, 3⟩ : Region).overlaps ⟨2, 2, 1, 1⟩ = true ∧
      (∀ x y, (⟨0, 0, 3, 3⟩ : Region).HasCell x y → (⟨-2, -1, 5, 4⟩ : Region).HasCell x y) ∧
      (⟨-2, -1, 5, 4⟩ : Region).contains ⟨2, 2, 1, 1⟩ = true ∧
      (⟨-2, -1, 5, 4⟩ : Region).overlaps ⟨2, 2, 1, 1⟩ = true := by
  have outward : (⟨-2, -1, 5, 4⟩ : Region).contains ⟨0, 0, 3, 3⟩ = true := by decide
  have some : (⟨0, 0, 3, 3⟩ : Region).isEmpty = false := by decide
  have inward : (⟨0, 0, 3, 3⟩ : Region).contains ⟨2, 2, 1, 1⟩ = true := by decide
  have meet : (⟨0, 0, 3, 3⟩ : Region).overlaps ⟨2, 2, 1, 1⟩ = true := by decide
  obtain ⟨-, -, cells, -, chained, -, lifted⟩ :=
    overlaps_contains_cells ⟨-2, -1, 5, 4⟩ ⟨0, 0, 3, 3⟩ ⟨2, 2, 1, 1⟩
  exact ⟨outward, some, inward, meet, (cells some).mp outward, chained outward inward,
    lifted outward meet⟩

end Region

end TuiTemplate
