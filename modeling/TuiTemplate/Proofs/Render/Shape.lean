import TuiTemplate.Proofs.Render.History
import TuiTemplate.Proofs.Text.Lines
import TuiTemplate.Proofs.Text.Trim

set_option autoImplicit false

namespace TuiTemplate

open Text

namespace Text

/-- Of the characters that move the cursor, only two end no line. -/
theorem filter_movesCursor {cs : List Char} (unbroken : Unbroken cs) :
    cs.filter (fun c => !movesCursor c) = cs.filter fun c => c.toNat ≠ 7 ∧ c.toNat ≠ 8 := by
  apply List.filter_congr
  intro c inside
  have plain := unbroken c inside
  rw [Bool.eq_iff_iff]
  simp [isLineBreak, movesCursor] at plain ⊢
  omega

end Text

theorem Draw.isLineBreak_of_charAt? {d : Draw} {x y : Nat} {c : Char}
    (put : d.charAt? x y = some c) : isLineBreak c = false := by
  rw [charAt?, if_pos (hasCell_of_charAt? put)] at put
  obtain ⟨line, row, column⟩ := Option.bind_eq_some_iff.mp put
  exact unbroken_of_mem_splitLines (List.mem_of_getElem? row) c (List.mem_of_getElem? column)

theorem exists_map_eq {α β : Type} {f : α → β} {holds : α → Prop} {images : List β}
    (each : ∀ image ∈ images, ∃ item, image = f item ∧ holds item) :
    ∃ items : List α, images = items.map f ∧ ∀ item ∈ items, holds item := by
  induction images with
  | nil => exact ⟨[], rfl, fun _ inside => nomatch inside⟩
  | cons image rest ih =>
      obtain ⟨first, later⟩ := List.forall_mem_cons.mp each
      obtain ⟨item, rfl, here⟩ := first
      obtain ⟨items, rfl, there⟩ := ih later
      exact ⟨item :: items, rfl, List.forall_mem_cons.mpr ⟨here, there⟩⟩

namespace Canvas

/-- What is shown of a row: not the fill at its end, and neither bell nor backspace. -/
def shownChars (fill : Char) (row : List Char) : List Char :=
  (row.rdropWhile (· == fill)).filter fun c => c.toNat ≠ 7 ∧ c.toNat ≠ 8

theorem newline_not_mem_shownChars {fill : Char} {row : List Char} (unbroken : Unbroken row) :
    '\n' ∉ shownChars fill row := by
  intro inside
  have kept := List.mem_of_mem_filter inside
  have member := (List.rdropWhile_prefix (· == fill) row).subset kept
  cases unbroken '\n' member

theorem filter_trimmedRow {fill : Char} {row : List Char} (unbroken : Unbroken row) :
    (trimmedRow (String.singleton fill) (String.ofList row)).toList.filter
        (fun c => !movesCursor c) = shownChars fill row := by
  have filled : (String.singleton fill).toList.contains = (· == fill) := by
    funext c
    rw [String.toList_singleton, List.contains_cons, List.contains_nil, Bool.or_false]
  have rest : Unbroken (row.rdropWhile (· == fill)) :=
    unbroken.of_subset fun c inside => (List.rdropWhile_prefix (· == fill) row).subset inside
  rw [trimmedRow, String.toList_ofList, String.toList_ofList, dropTrailing_eq_rdropWhile, filled,
    filter_movesCursor rest, shownChars]

variable {width height : Nat} {fill : Char} {c : Canvas}

/-- A cell holds one character, which ends no line. -/
theorem Logged.cell_plain (logged : Logged width height (String.singleton fill) c)
    (plain : isLineBreak fill = false) :
    ∀ row ∈ c.grid, ∀ cell ∈ row, ∃ ch, cell = String.singleton ch ∧ isLineBreak ch = false := by
  intro row inside cell member
  obtain ⟨y, found⟩ := List.mem_iff_getElem?.mp inside
  obtain ⟨x, held⟩ := List.mem_iff_getElem?.mp member
  have reached : y < height := by
    rw [← logged.isGrid.rows]
    exact (List.getElem?_eq_some_iff.mp found).1
  have column : x < width := by
    rw [← logged.isGrid.cells row inside]
    exact (List.getElem?_eq_some_iff.mp held).1
  have content := logged.cellAt_eq column reached
  rw [cellAt, found, Option.bind_some, held, Option.some.injEq] at content
  cases latest : c.draws.reverse.findSome? fun d => d.charAt? x y with
  | none =>
      rw [latest] at content
      exact ⟨fill, content, plain⟩
  | some drawn =>
      rw [latest] at content
      obtain ⟨d, -, put⟩ := List.exists_of_findSome?_eq_some latest
      exact ⟨drawn, content, d.isLineBreak_of_charAt? put⟩

/-- The rows of a canvas as characters. -/
theorem Logged.exists_rows (logged : Logged width height (String.singleton fill) c)
    (plain : isLineBreak fill = false) :
    ∃ rows : List (List Char), c.grid = rows.map (List.map String.singleton) ∧
      ∀ row ∈ rows, Unbroken row := by
  apply exists_map_eq
  intro row inside
  exact exists_map_eq (logged.cell_plain plain row inside)

section rows

variable {rows : List (List Char)} (grid_eq : c.grid = rows.map (List.map String.singleton))

include grid_eq

theorem lines_eq : c.lines = rows.map String.ofList := by
  rw [lines, grid_eq, List.map_map]
  apply List.map_congr_left
  intro row _
  apply String.toList_injective
  simp [String.toList_join, List.flatMap_map]

/-- A canvas is shown row by row. -/
theorem toList_shownText (fill_eq : c.fill = String.singleton fill)
    (unbroken : ∀ row ∈ rows, Unbroken row) :
    c.shownText.toList = ['\n'].intercalate (rows.map (shownChars fill)) := by
  have mark : "\n".toList = ['\n'] := rfl
  have kept : ['\n'].filter (fun c => !movesCursor c) = ['\n'] := by decide
  rw [shownText, removeControls, String.toList_ofList, String.toList_intercalate, mark,
    filter_intercalate, kept, lines_eq grid_eq, List.map_map, List.map_map, List.map_map]
  apply congrArg
  apply List.map_congr_left
  intro row inside
  rw [Function.comp_apply, Function.comp_apply, Function.comp_apply, fill_eq]
  exact filter_trimmedRow (unbroken row inside)

end rows

/-- However a canvas was drawn on and cleared, it keeps its rows and columns, no cell holds the end
of a line, and it is shown row by row. -/
theorem afterAll_keeps_shape {fill : Char} (plain : isLineBreak fill = false)
    (width height : Nat) (calls : List CanvasCall) :
    let c := (blank width height (String.singleton fill)).afterAll calls
    IsGrid width height c.grid ∧
      (∀ row ∈ c.grid, ∀ cell ∈ row, ∃ ch, cell = String.singleton ch ∧ isLineBreak ch = false) ∧
      (c.lines.length = height ∧ ∀ line ∈ c.lines, line.length = width) ∧
      (c.shownText.toList.splitOn '\n').length = max height 1 ∧
      ∀ i < height, (c.shownText.toList.splitOn '\n')[i]? =
        c.lines[i]?.map fun line => shownChars fill line.toList := by
  intro c
  have logged : Logged width height (String.singleton fill) c :=
    (logged_blank width height (String.singleton fill)).afterAll calls
  -- `String.length` and `splitOn` count characters, so the rows are needed as such
  obtain ⟨rows, grid_eq, unbroken⟩ := logged.exists_rows plain
  have lines := lines_eq grid_eq
  have count : rows.length = height := by
    rw [← logged.isGrid.rows, grid_eq, List.length_map]
  have absent : ∀ row ∈ rows.map (shownChars fill), '\n' ∉ row := by
    intro row inside
    obtain ⟨whole, member, rfl⟩ := List.mem_map.mp inside
    exact newline_not_mem_shownChars (unbroken whole member)
  have shown := splitOn_intercalate_newline absent
  rw [← toList_shownText grid_eq logged.fill_eq unbroken, List.length_map, count] at shown
  refine ⟨logged.isGrid, logged.cell_plain plain, ⟨?_, ?_⟩, shown.1, ?_⟩
  · rw [lines, List.length_map, count]
  · intro line inside
    rw [lines] at inside
    obtain ⟨row, member, rfl⟩ := List.mem_map.mp inside
    have cells : row.map String.singleton ∈ c.grid := by
      rw [grid_eq]
      exact List.mem_map_of_mem member
    rw [String.length_ofList, ← logged.isGrid.cells _ cells, List.length_map]
  · intro i inside
    rw [shown.2 i inside, lines, List.getElem?_map, List.getElem?_map, Option.map_map]
    simp only [Function.comp_def, String.toList_ofList]

def belledCalls : List CanvasCall :=
  [.draw ⟨⟨0, 0, 4, 2⟩, "zz\nzz"⟩, .clear, .draw ⟨⟨3, 0, 2, 1⟩, "out"⟩,
    .draw ⟨⟨1, 0, 3, 2⟩, "h\x08i\x0by"⟩]

theorem afterAll_keeps_shape_belled :
    isLineBreak '\x07' = false ∧
      let c := (blank 4 2 (String.singleton '\x07')).afterAll belledCalls
      IsGrid 4 2 c.grid ∧ c.lines = ["\x07h\x08i", "\x07y\x07\x07"] ∧
        (c.shownText.toList.splitOn '\n').length = 2 ∧
        (c.shownText.toList.splitOn '\n')[0]? = some ['h', 'i'] ∧
        (c.shownText.toList.splitOn '\n')[1]? = some ['y'] := by
  have plain : isLineBreak '\x07' = false := by decide
  obtain ⟨shape, -, -, count, rows⟩ := afterAll_keeps_shape plain 4 2 belledCalls
  refine ⟨plain, shape, by decide +kernel, count, ?_, ?_⟩
  · exact (rows 0 (by decide)).trans (by decide +kernel)
  · exact (rows 1 (by decide)).trans (by decide +kernel)

end Canvas

end TuiTemplate
