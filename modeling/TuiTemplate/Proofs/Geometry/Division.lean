import TuiTemplate.Proofs.Geometry

set_option autoImplicit false

namespace TuiTemplate

namespace Region

/-- The part of a region that has a share of it along an axis. A share below zero is refused. -/
def cut (r : Region) (d : Direction) (start share : Int) : Except GeometryError Region :=
  match d with
  | .horizontal => ofInts start r.y share r.height
  | .vertical => ofInts r.x start r.width share

/-- Parts cut off one after the other along an axis, up to the first that is refused. -/
def cutFrom (r : Region) (d : Direction) (start : Int) :
    List Int → Except GeometryError (List Region)
  | [] => .ok []
  | share :: rest => do
    let first ← r.cut d start share
    let later ← r.cutFrom d (start + share) rest
    return first :: later

/-- Regions that lie one after the other along an axis, from one place on it to another. Each
begins where the one before it ends. -/
inductive Consecutive (d : Direction) : Int → List Region → Int → Prop where
  | nil (stop : Int) : Consecutive d stop [] stop
  | cons {part : Region} {rest : List Region} {stop : Int}
      (later : Consecutive d (part.stop d) rest stop) :
      Consecutive d (part.start d) (part :: rest) stop

/-- An exact division of a region along an axis into a number of parts. All have the quotient
rounded down, and the last has what is left over as well. -/
structure Divides (parts : List Region) (r : Region) (d : Direction) (count : Nat) : Prop where
  length : parts.length = count
  cells : ∀ x y, parts.countP (fun part => part.HasCell x y) = if r.HasCell x y then 1 else 0
  consecutive : Consecutive d (r.start d) parts (r.stop d)
  across : ∀ part ∈ parts,
    part.start d.cross = r.start d.cross ∧ part.extent d.cross = r.extent d.cross
  extents : parts.map (fun part => part.extent d) =
    List.replicate (count - 1) (r.extent d / count) ++ [r.extent d / count + r.extent d % count]
  largest : ∃ last, parts.getLast? = some last ∧ ∀ part ∈ parts, part.extent d ≤ last.extent d
  within : ∀ part ∈ parts, r.contains part = true

section slices

variable (r : Region) (d : Direction) (start : Int) (extents : List Nat)

theorem ofInts_natCast (x y : Int) (width height : Nat) :
    ofInts x y width height = .ok ⟨x, y, width, height⟩ := by
  have extents : ¬ ((width : Int) < 0 ∨ (height : Int) < 0) := by omega
  rw [ofInts, if_neg extents, Int.toNat_natCast, Int.toNat_natCast]

theorem cut_natCast (extent : Nat) : r.cut d start extent = .ok (r.slice d start extent) := by
  cases d with
  | horizontal => exact ofInts_natCast start r.y extent r.height
  | vertical => exact ofInts_natCast r.x start r.width extent

/-- No share of a number of cells is refused. -/
theorem cutFrom_map_natCast :
    r.cutFrom d start (extents.map Nat.cast) = .ok (r.slicesFrom d start extents) := by
  induction extents generalizing start with
  | nil => rfl
  | cons extent rest ih =>
      rw [List.map_cons, cutFrom, cut_natCast, ih]
      rfl

theorem consecutive_slicesFrom :
    Consecutive d start (r.slicesFrom d start extents) (start + extents.sum) := by
  induction extents generalizing start with
  | nil =>
      have same : start + (([] : List Nat).sum : Nat) = start := by
        rw [List.sum_nil, Int.natCast_zero, Int.add_zero]
      rw [same]
      exact .nil start
  | cons extent rest ih =>
      have whole : start + ((extent :: rest).sum : Nat) = start + extent + (rest.sum : Nat) := by
        rw [List.sum_cons]
        omega
      have joined : Consecutive d ((r.slice d start extent).start d)
          (r.slice d start extent :: r.slicesFrom d (start + extent) rest)
          (start + extent + (rest.sum : Nat)) := by
        apply Consecutive.cons
        rw [stop_slice]
        exact ih (start + extent)
      rw [start_slice] at joined
      rw [whole]
      exact joined

theorem map_extent_slicesFrom :
    (r.slicesFrom d start extents).map (fun part => part.extent d) = extents := by
  induction extents generalizing start with
  | nil => rfl
  | cons extent rest ih => rw [slicesFrom, List.map_cons, extent_slice, ih]

end slices

/-- If all parts but the last have one extent, and the last that and more, the last is the
largest. -/
theorem exists_largest {parts : List Region} {d : Direction} {others share more : Nat}
    (extents : parts.map (fun part => part.extent d) =
      List.replicate others share ++ [share + more]) :
    ∃ last, parts.getLast? = some last ∧ ∀ part ∈ parts, part.extent d ≤ last.extent d := by
  obtain ⟨front, tail, rfl, frontExtents, tailExtent⟩ := List.map_eq_append_iff.mp extents
  obtain ⟨last, rfl, lastExtent⟩ := List.map_eq_singleton_iff.mp tailExtent
  refine ⟨last, List.getLast?_concat, ?_⟩
  intro part inside
  rw [lastExtent]
  rcases List.mem_append.mp inside with earlier | same
  · have listed := List.mem_map_of_mem (f := fun part => part.extent d) earlier
    rw [frontExtents] at listed
    have equal := List.eq_of_mem_replicate listed
    omega
  · rw [List.mem_singleton.mp same, lastExtent]

/-- The equal shares of a region can all be cut off, and they divide it exactly. -/
theorem split_divides (r : Region) (d : Direction) {count : Nat} (positive : 0 < count) :
    r.cutFrom d (r.start d) (equalShares (r.extent d) count) = .ok (r.split d count) ∧
      Divides (r.split d count) r d count := by
  have extents : (r.split d count).map (fun part => part.extent d) =
      List.replicate (count - 1) (r.extent d / count) ++
        [r.extent d / count + r.extent d % count] := by
    rw [split_eq_slicesFrom, map_extent_slicesFrom, equalShares_eq _ positive]
  constructor
  · rw [split_eq_slicesFrom, equalShares_eq _ positive, equalShares_eq_map _ positive]
    exact r.cutFrom_map_natCast d (r.start d) _
  · have consecutive := r.consecutive_slicesFrom d (r.start d)
      ((equalShares (r.extent d) count).map Int.toNat)
    rw [sum_equalShares _ positive, ← split_eq_slicesFrom] at consecutive
    exact {
      length := length_split r d count
      cells := countP_split r d positive
      consecutive := consecutive
      across := fun part inside => (mem_split inside).2
      extents := extents
      largest := exists_largest extents
      within := fun part inside => contains_of_mem_split inside }

/-- Two columns are divided into four parts. Three have none of them, and the last has both. -/
theorem split_divides_narrow :
    0 < 4 ∧ (⟨-3, 5, 2, 7⟩ : Region).split .horizontal 4 =
        [⟨-3, 5, 0, 7⟩, ⟨-3, 5, 0, 7⟩, ⟨-3, 5, 0, 7⟩, ⟨-3, 5, 2, 7⟩] ∧
      Divides [⟨-3, 5, 0, 7⟩, ⟨-3, 5, 0, 7⟩, ⟨-3, 5, 0, 7⟩, ⟨-3, 5, 2, 7⟩]
        ⟨-3, 5, 2, 7⟩ .horizontal 4 := by
  have parts : (⟨-3, 5, 2, 7⟩ : Region).split .horizontal 4 =
      [⟨-3, 5, 0, 7⟩, ⟨-3, 5, 0, 7⟩, ⟨-3, 5, 0, 7⟩, ⟨-3, 5, 2, 7⟩] := by decide
  have divided := (split_divides ⟨-3, 5, 2, 7⟩ .horizontal (show 0 < 4 by decide)).2
  refine ⟨by decide, parts, ?_⟩
  rw [← parts]
  exact divided

end Region

end TuiTemplate
