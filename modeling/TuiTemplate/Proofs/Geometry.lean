import Mathlib.Algebra.Ring.Nat
import TuiTemplate.Geometry

set_option autoImplicit false

namespace TuiTemplate

def Direction.cross : Direction → Direction
  | .horizontal => .vertical
  | .vertical => .horizontal

def Direction.coordinate (d : Direction) (x y : Int) : Int :=
  match d with
  | .horizontal => x
  | .vertical => y

namespace Region

def start (r : Region) : Direction → Int
  | .horizontal => r.x
  | .vertical => r.y

def extent (r : Region) : Direction → Nat
  | .horizontal => r.width
  | .vertical => r.height

def stop (r : Region) (d : Direction) : Int := r.start d + r.extent d

def HasCell (r : Region) (x y : Int) : Prop :=
  (r.x ≤ x ∧ x < r.right) ∧ r.y ≤ y ∧ y < r.bottom

instance (r : Region) (x y : Int) : Decidable (r.HasCell x y) :=
  inferInstanceAs (Decidable ((r.x ≤ x ∧ x < r.right) ∧ r.y ≤ y ∧ y < r.bottom))

theorem contains_iff {r other : Region} :
    r.contains other = true ↔
      r.x ≤ other.x ∧ r.y ≤ other.y ∧ other.right ≤ r.right ∧ other.bottom ≤ r.bottom := by
  simp only [contains, Bool.and_eq_true, decide_eq_true_eq, and_assoc]

theorem contains_refl (r : Region) : r.contains r = true := by
  simp [contains_iff]

theorem contains_trans {r middle inner : Region} (outerContains : r.contains middle = true)
    (innerContains : middle.contains inner = true) : r.contains inner = true := by
  rw [contains_iff] at *
  omega

theorem hasCell_of_contains {outer inner : Region} (within : outer.contains inner = true)
    {x y : Int} (cell : inner.HasCell x y) : outer.HasCell x y := by
  rw [contains_iff] at within
  unfold HasCell at *
  omega

theorem not_hasCell_of_isEmpty {r : Region} (empty : r.isEmpty = true) (x y : Int) :
    ¬ r.HasCell x y := by
  simp only [isEmpty, Bool.or_eq_true, beq_iff_eq] at empty
  unfold HasCell right bottom
  omega

theorem hasCell_iff {r : Region} (d : Direction) {x y : Int} :
    r.HasCell x y ↔
      (r.start d ≤ d.coordinate x y ∧ d.coordinate x y < r.stop d) ∧
        r.start d.cross ≤ d.cross.coordinate x y ∧ d.cross.coordinate x y < r.stop d.cross := by
  cases d with
  | horizontal => exact Iff.rfl
  | vertical => exact and_comm

theorem contains_iff_along {r other : Region} (d : Direction) :
    r.contains other = true ↔
      (r.start d ≤ other.start d ∧ other.stop d ≤ r.stop d) ∧
        r.start d.cross ≤ other.start d.cross ∧ other.stop d.cross ≤ r.stop d.cross := by
  rw [contains_iff]
  cases d with
  | horizontal =>
      change _ ↔ (r.x ≤ other.x ∧ other.right ≤ r.right) ∧ r.y ≤ other.y ∧ other.bottom ≤ r.bottom
      omega
  | vertical =>
      change _ ↔ (r.y ≤ other.y ∧ other.bottom ≤ r.bottom) ∧ r.x ≤ other.x ∧ other.right ≤ r.right
      omega

end Region

section equalShares

/-- The equal shares of a number of cells, with what is left over in the last. -/
theorem equalShares_eq_map (total : Nat) {count : Nat} (positive : 0 < count) :
    equalShares total count =
      (List.replicate (count - 1) (total / count) ++ [total / count + total % count]).map
        Nat.cast := by
  have quotient : (total : Int).fdiv count = ((total / count : Nat) : Int) := by
    rw [Int.fdiv_eq_ediv_of_nonneg _ (by omega), Int.natCast_ediv]
  have remainder : (total : Int).fmod count = ((total % count : Nat) : Int) := by
    rw [Int.fmod_eq_emod_of_nonneg _ (by omega), Int.natCast_emod]
  have some : ¬ (count : Int) ≤ 0 := by omega
  rw [equalShares, if_neg some, quotient, remainder]
  simp only [List.map_append, List.map_replicate, List.map_cons, List.map_nil, Int.toNat_natCast,
    ← Int.natCast_add]

theorem equalShares_eq (total : Nat) {count : Nat} (positive : 0 < count) :
    (equalShares total count).map Int.toNat =
      List.replicate (count - 1) (total / count) ++ [total / count + total % count] := by
  rw [equalShares_eq_map total positive, List.map_map]
  exact List.map_id _

theorem length_equalShares (total : Int) (count : Nat) :
    (equalShares total count).length = count := by
  unfold equalShares
  split
  · next none => simp only [List.length_nil]; omega
  · next some => simp only [List.length_append, List.length_replicate, List.length_singleton]; omega

/-- The shares are the whole. -/
theorem sum_equalShares (total : Nat) {count : Nat} (positive : 0 < count) :
    ((equalShares total count).map Int.toNat).sum = total := by
  obtain ⟨others, rfl⟩ : ∃ others, count = others + 1 := ⟨count - 1, by omega⟩
  rw [equalShares_eq total positive, List.sum_append_nat, List.sum_replicate_nat,
    List.sum_singleton, Nat.add_sub_cancel, ← Nat.add_assoc, ← Nat.succ_mul]
  exact Nat.div_add_mod total (others + 1)

end equalShares

namespace Region

/-- The part of a region that has the given place along an axis and all of the other axis. -/
def slice (r : Region) (d : Direction) (start : Int) (extent : Nat) : Region :=
  match d with
  | .horizontal => ⟨start, r.y, extent, r.height⟩
  | .vertical => ⟨r.x, start, r.width, extent⟩

def slicesFrom (r : Region) (d : Direction) (start : Int) : List Nat → List Region
  | [] => []
  | extent :: rest => r.slice d start extent :: r.slicesFrom d (start + extent) rest

section slices

variable (r : Region) (d : Direction) (start : Int) (extents : List Nat)

@[simp] theorem start_slice (extent : Nat) : (r.slice d start extent).start d = start := by
  cases d <;> rfl

@[simp] theorem extent_slice (extent : Nat) : (r.slice d start extent).extent d = extent := by
  cases d <;> rfl

@[simp] theorem stop_slice (extent : Nat) :
    (r.slice d start extent).stop d = start + extent := by
  rw [stop, start_slice, extent_slice]

@[simp] theorem start_cross_slice (extent : Nat) :
    (r.slice d start extent).start d.cross = r.start d.cross := by
  cases d <;> rfl

@[simp] theorem extent_cross_slice (extent : Nat) :
    (r.slice d start extent).extent d.cross = r.extent d.cross := by
  cases d <;> rfl

@[simp] theorem stop_cross_slice (extent : Nat) :
    (r.slice d start extent).stop d.cross = r.stop d.cross := by
  rw [stop, start_cross_slice, extent_cross_slice, stop]

theorem columnsFrom_eq : r.columnsFrom start extents = r.slicesFrom .horizontal start extents := by
  induction extents generalizing start with
  | nil => rfl
  | cons extent rest ih => rw [columnsFrom, slicesFrom, ih, slice]

theorem rowsFrom_eq : r.rowsFrom start extents = r.slicesFrom .vertical start extents := by
  induction extents generalizing start with
  | nil => rfl
  | cons extent rest ih => rw [rowsFrom, slicesFrom, ih, slice]

theorem split_eq_slicesFrom (count : Int) :
    r.split d count =
      r.slicesFrom d (r.start d) ((equalShares (r.extent d) count).map Int.toNat) := by
  cases d with
  | horizontal => exact r.columnsFrom_eq r.x _
  | vertical => exact r.rowsFrom_eq r.y _

theorem length_slicesFrom : (r.slicesFrom d start extents).length = extents.length := by
  induction extents generalizing start with
  | nil => rfl
  | cons extent rest ih => rw [slicesFrom, List.length_cons, ih, List.length_cons]

/-- A cell lies in one of the slices, and in one only, if it lies in the strip that they make
up. -/
theorem countP_slicesFrom (x y : Int) :
    (r.slicesFrom d start extents).countP (fun part => part.HasCell x y) =
      if (start ≤ d.coordinate x y ∧ d.coordinate x y < start + extents.sum) ∧
          r.start d.cross ≤ d.cross.coordinate x y ∧ d.cross.coordinate x y < r.stop d.cross then 1
      else 0 := by
  induction extents generalizing start with
  | nil =>
      have outside : ¬ (start ≤ d.coordinate x y ∧ d.coordinate x y < start) := by omega
      simp [slicesFrom, outside]
  | cons extent rest ih =>
      have first := hasCell_iff (r := r.slice d start extent) d (x := x) (y := y)
      simp only [start_slice, stop_slice, start_cross_slice, stop_cross_slice] at first
      rw [slicesFrom, List.countP_cons, ih, List.sum_cons]
      simp only [decide_eq_true_eq, first]
      split <;> split <;> split <;> omega

theorem mem_slicesFrom {part : Region} (inside : part ∈ r.slicesFrom d start extents) :
    (start ≤ part.start d ∧ part.stop d ≤ start + extents.sum) ∧
      part.start d.cross = r.start d.cross ∧ part.extent d.cross = r.extent d.cross := by
  induction extents generalizing start with
  | nil => cases inside
  | cons extent rest ih =>
      rw [List.sum_cons]
      rcases List.mem_cons.mp inside with rfl | later
      · simp only [start_slice, stop_slice, start_cross_slice, extent_cross_slice, and_self,
          and_true]
        omega
      · have below := ih (start + extent) later
        omega

end slices

theorem length_split (r : Region) (d : Direction) (count : Nat) :
    (r.split d count).length = count := by
  rw [split_eq_slicesFrom, length_slicesFrom, List.length_map, length_equalShares]

/-- Every cell of a region lies in exactly one of its parts, and no other cell lies in any. -/
theorem countP_split (r : Region) (d : Direction) {count : Nat} (positive : 0 < count)
    (x y : Int) :
    (r.split d count).countP (fun part => part.HasCell x y) =
      if r.HasCell x y then 1 else 0 := by
  rw [split_eq_slicesFrom, countP_slicesFrom, sum_equalShares _ positive]
  exact if_congr (hasCell_iff d).symm rfl rfl

/-- A part keeps to its region along the axis and has all of it across. -/
theorem mem_split {r part : Region} {d : Direction} {count : Nat}
    (inside : part ∈ r.split d count) :
    (r.start d ≤ part.start d ∧ part.stop d ≤ r.stop d) ∧
      part.start d.cross = r.start d.cross ∧ part.extent d.cross = r.extent d.cross := by
  have positive : 0 < count := by
    rw [← length_split r d count]
    exact List.length_pos_of_mem inside
  rw [split_eq_slicesFrom] at inside
  have within := mem_slicesFrom _ _ _ _ inside
  rwa [sum_equalShares _ positive] at within

theorem contains_of_mem_split {r part : Region} {d : Direction} {count : Nat}
    (inside : part ∈ r.split d count) : r.contains part = true := by
  obtain ⟨along, start, extent⟩ := mem_split inside
  have across : part.stop d.cross = r.stop d.cross := by
    rw [stop, start, extent, stop]
  rw [contains_iff_along d, start, across]
  exact ⟨along, Int.le_refl _, Int.le_refl _⟩

end Region

end TuiTemplate
