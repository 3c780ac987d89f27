import TuiTemplate.Console.Screen
import TuiTemplate.Proofs.Render.Tiling

set_option autoImplicit false

namespace TuiTemplate

/-- What an extent that is asked for comes to on a terminal. Zero is as good as nothing. -/
def usedExtent (asked : Option Nat) (screen : Nat) : Nat := (asked.filter (· ≠ 0)).getD screen

theorem chosenExtent_natCast (asked : Option Nat) (screen : Nat) :
    chosenExtent (asked.map Nat.cast) screen = (usedExtent asked screen : Int) := by
  cases asked with
  | none => rfl
  | some extent =>
      rcases Nat.eq_zero_or_pos extent with rfl | positive
      · rfl
      · have filled : ¬ (extent : Int) = 0 := by omega
        have kept : usedExtent (some extent) screen = extent := by
          simp [usedExtent, Option.filter, Nat.ne_of_gt positive]
        rw [kept]
        exact if_neg filled

/-- An extent that is asked for is used, unless it is zero and the terminal has another one. -/
theorem usedExtent_eq_getD_iff (asked : Option Nat) (screen : Nat) :
    usedExtent asked screen = asked.getD screen ↔ (asked = some 0 → screen = 0) := by
  cases asked with
  | none => simp [usedExtent]
  | some extent =>
      rcases Nat.eq_zero_or_pos extent with rfl | positive
      · simp [usedExtent, Option.filter]
      · simp [usedExtent, Option.filter, Nat.ne_of_gt positive]

/-- Both ways to a canvas for a printed render lead to a blank one. -/
theorem printCanvas_natCast (screen : ScreenSize) (width height : Option Nat) :
    printCanvas screen (width.map Nat.cast) (height.map Nat.cast) =
      .ok (.blank (usedExtent width screen.columns) (usedExtent height screen.rows)) := by
  have stated : Canvas.ofInts (chosenExtent (width.map Nat.cast) screen.columns)
      (chosenExtent (height.map Nat.cast) screen.rows) =
        .ok (.blank (usedExtent width screen.columns) (usedExtent height screen.rows)) := by
    rw [chosenExtent_natCast, chosenExtent_natCast, Canvas.ofInts, if_neg (by omega),
      Int.toNat_natCast, Int.toNat_natCast]
  cases width with
  | none =>
      cases height with
      | none => rfl
      | some rows => exact stated
  | some columns => exact stated

/-- A render that is printed is the render on a blank canvas, with the text of that canvas as its
output. The canvas has the extents asked for, and those of the terminal where none is, or a zero. -/
theorem renderToScreen_eq {root : Node} (oriented : root.Oriented) {subs : Substitutions}
    (speaks : root.Speaks subs) (screen : ScreenSize) (width height : Option Nat) :
    ∃ canvas : Canvas,
      renderToScreen root subs screen (width.map Nat.cast) (height.map Nat.cast) =
        .ok ⟨canvas, printed screen.columns canvas.shownText⟩ ∧
      render root subs (Canvas.blank canvas.width canvas.height) = (canvas, none) ∧
      canvas.width = usedExtent width screen.columns ∧
      canvas.height = usedExtent height screen.rows ∧
      (canvas.width = width.getD screen.columns ↔ (width = some 0 → screen.columns = 0)) ∧
      (canvas.height = height.getD screen.rows ↔ (height = some 0 → screen.rows = 0)) := by
  let start := Canvas.blank (usedExtent width screen.columns) (usedExtent height screen.rows)
  have chosen : printCanvas screen (width.map Nat.cast) (height.map Nat.cast) = .ok start :=
    printCanvas_natCast screen width height
  have rendered : render root subs start = (start.drawn (root.draws subs start.area), none) :=
    render_canvas oriented speaks start
  refine ⟨start.drawn (root.draws subs start.area), ?_, rendered, rfl, rfl,
    usedExtent_eq_getD_iff width screen.columns, usedExtent_eq_getD_iff height screen.rows⟩
  rw [renderToScreen, chosen]
  simp only [rendered]

/-- A width of zero is not used on a terminal that has columns. -/
theorem renderToScreen_zero_width :
    ¬ ∃ canvas output, renderToScreen column .empty ⟨4, 3⟩ (some 0) none = .ok ⟨canvas, output⟩ ∧
      canvas.width = 0 := by
  rintro ⟨canvas, output, printed, empty⟩
  cases printed
  cases empty

/-- The height that is asked for is used, and the width of zero is not. -/
theorem renderToScreen_eq_column :
    column.Oriented ∧ column.Speaks .empty ∧ ∃ canvas : Canvas,
      renderToScreen column .empty ⟨4, 3⟩ (some 0) (some 7) =
        .ok ⟨canvas, printed 4 canvas.shownText⟩ ∧
      render column .empty (Canvas.blank 4 7) = (canvas, none) := by
  have oriented := column_built.sound.oriented
  refine ⟨oriented, column_speaks .empty, ?_⟩
  obtain ⟨canvas, printed, rendered, columns, rows, -, -⟩ :=
    renderToScreen_eq oriented (column_speaks .empty) ⟨4, 3⟩ (some 0) (some 7)
  rw [columns, rows] at rendered
  exact ⟨canvas, printed, rendered⟩

end TuiTemplate
