import TuiTemplate.Proofs.Template.Block
import TuiTemplate.Proofs.Template.Report

set_option autoImplicit false

namespace TuiTemplate

open Text

def Line.isRoot (line : Line) : Bool := line.indent = 0 && isDeclaration line.text

namespace Line

theorem isRoot_iff {line : Line} :
    line.isRoot = true ↔ line.indent = 0 ∧ isDeclaration line.text = true := by
  rw [isRoot, Bool.and_eq_true, decide_eq_true_iff]

theorem map_filter_isRoot (lines : List Line) :
    ((lines.filter isRoot).map fun line => declaredKind line.text) = rootKinds lines := rfl

/-- No line of a block that is nested anywhere is a root. -/
theorem filter_isRoot_of_block {indent : Nat} {taken left : List Line}
    (block : Block indent taken left) (nested : 0 < indent) : taken.filter isRoot = [] := by
  refine List.filter_eq_nil_iff.mpr fun line inside root => ?_
  have deep := block.deep line inside
  have level := (isRoot_iff.mp root).1
  omega

/-- The error of a line in a block is not about roots. -/
theorem Meets.not_manyRoots {line : Line} {error : TemplateError} (meets : line.Meets error)
    (roots : List String) : error.fault ≠ .manyRoots roots := by
  intro fault
  cases meets <;> cases fault

end Line

/-- An error about roots lists those of the whole document and is found on the second. -/
theorem ReadsDocument.manyRoots {registry : Registry} {lines left : List Line}
    {outcome : Except CompileError Node} (reads : ReadsDocument registry lines outcome left)
    {error : TemplateError} (failed : outcome = .error (.malformed error)) {roots : List String}
    (fault : error.fault = .manyRoots roots) :
    ∃ first second others, lines.filter Line.isRoot = first :: second :: others ∧
      error = ⟨some second.number, some second.raw, .manyRoots (rootKinds lines)⟩ := by
  cases reads with
  | unresolved level declares unknown =>
      have meets := Line.meets_of_unresolved declares unknown (Except.error.inj failed)
      exact absurd fault (meets.not_manyRoots roots)
  | brokenRoot level declares resolved container block =>
      obtain ⟨other, -, meets⟩ := block.exists_meets failed
      exact absurd fault (meets.not_manyRoots roots)
  | @root line rest left node root level declares resolved container block =>
      obtain ⟨taken, rfl, below⟩ := block.block rfl rfl
      rcases left with _ | ⟨next, after⟩
      · cases failed
      · have kind : root.kind = declaredKind line.text := by
          rw [block.kind_eq rfl, Registry.kind_of_resolve resolved]
        have nested := Line.filter_isRoot_of_block below (by decide)
        rw [afterRoot] at failed
        split at failed
        · next nextDeclares =>
          have second := Line.isRoot_iff.mpr ⟨below.closes.indent_eq_zero, nextDeclares⟩
          have whole : (line :: (taken ++ next :: after)).filter Line.isRoot =
              line :: (next :: after).filter Line.isRoot := by
            rw [List.filter_cons_of_pos (Line.isRoot_iff.mpr ⟨level, declares⟩),
              List.filter_append, nested, List.nil_append]
          refine ⟨line, next, after.filter Line.isRoot, ?_, ?_⟩
          · rw [whole, List.filter_cons_of_pos second]
          · cases failed
            rw [kind, ← Line.map_filter_isRoot, ← Line.map_filter_isRoot, whole]
            rfl
        · cases failed
          cases fault
  | _ =>
      cases failed
      cases fault

/-- A block goes on as before when more lines follow, if these close it. -/
theorem Reads.append {registry : Registry} {parent : Node} {indent : Nat} {sawChild : Bool}
    {lines left more : List Line} {outcome : Except CompileError Node}
    (reads : Reads registry parent indent sawChild lines outcome left)
    (closes : Closes indent more) :
    Reads registry parent indent sawChild (lines ++ more) outcome (left ++ more) := by
  induction reads with
  | finish parent indent sawChild => exact closes.reads registry parent sawChild
  | dedent shallower aligned => exact .dedent shallower aligned
  | offStep shallower unaligned => exact .offStep shallower unaligned
  | tooDeep deeper => exact .tooDeep deeper
  | unresolved level declares failed => exact .unresolved level declares failed
  | brokenChild level declares resolved inner innerIh =>
      exact .brokenChild level declares resolved (innerIh closes.nested)
  | refusedChild level declares resolved inner refused innerIh =>
      exact .refusedChild level declares resolved (innerIh closes.nested) refused
  | child level declares resolved inner accepted later innerIh laterIh =>
      exact .child level declares resolved (innerIh closes.nested) accepted (laterIh closes)
  | lateSetting level sets => exact .lateSetting level sets
  | refusedSetting level sets refused => exact .refusedSetting level sets refused
  | setting level sets accepted later laterIh =>
      exact .setting level sets accepted (laterIh closes)
  | stray level noDeclaration noAttribute => exact .stray level noDeclaration noAttribute

/-- A document is read no further than to the line behind it, which is on the top level. -/
theorem parse_append {registry : Registry} {front : List Line} {root : Node}
    (parsed : (parse registry front).outcome = .ok root) {next : Line} (level : next.indent = 0)
    (after : List Line) :
    (parse registry (front ++ next :: after)).outcome = afterRoot root (next :: after) := by
  obtain ⟨line, rest, node, rfl, atTop, declares, resolved, container, block⟩ :=
    parse_eq_ok_iff.mp parsed
  have closes : Closes indentStep (next :: after) := by
    intro first isFirst
    cases isFirst
    rw [level]
    exact ⟨by decide, rfl⟩
  exact (parse_eq_of_readsDocument
    (.root atTop declares resolved container (block.append closes))).1

/-- A text that begins with the lines of another begins with the lines of it that count. -/
theorem exists_scan_eq_append {front source : String}
    (begins : splitLines front <+: splitLines source) :
    ∃ after, scan source = scan front ++ after := by
  obtain ⟨raws, whole⟩ := begins
  exact ⟨_, by rw [scan, ← whole, Line.significant_append]; rfl⟩

/-- The error about roots names all roots of the whole template, wherever they are, and is found on
the second of them. It is the answer to every template that goes on with a root behind lines that
make up a template. -/
theorem compile_manyRoots (registry : Registry) (source : String) :
    (∀ error roots, compile registry source = .error (.malformed error) →
      error.fault = .manyRoots roots →
        roots = ((scan source).filter Line.isRoot).map (fun line => declaredKind line.text) ∧
        2 ≤ roots.length ∧
        ∃ second, ((scan source).filter Line.isRoot)[1]? = some second ∧
          error.line = some (second.number : Int)) ∧
    (∀ front tree next, splitLines front <+: splitLines source →
      compile registry front = .ok tree →
      (scan source)[(scan front).length]? = some next → next.isRoot = true →
        ∃ error roots, compile registry source = .error (.malformed error) ∧
          error.fault = .manyRoots roots) := by
  constructor
  · intro error roots failed fault
    have reads := readsDocument_parse registry (scan source)
    obtain ⟨first, second, others, whole, rfl⟩ := reads.manyRoots failed fault
    obtain rfl := TemplateFault.manyRoots.inj fault
    rw [← Line.map_filter_isRoot, whole]
    exact ⟨rfl, by simp, second, rfl, rfl⟩
  · intro front tree next begins compiled here root
    obtain ⟨after, whole⟩ := exists_scan_eq_append begins
    rw [whole, List.getElem?_append_right (Nat.le_refl _), Nat.sub_self,
      ← List.head?_eq_getElem?] at here
    obtain ⟨later, rfl⟩ := List.head?_eq_some_iff.mp here
    obtain ⟨level, declares⟩ := Line.isRoot_iff.mp root
    have failed : compile registry source = .error (next.fault
        (.manyRoots (tree.kind :: rootKinds (next :: later)))) := by
      rw [compile, whole, parse_append compiled level, afterRoot, if_pos declares]
    exact ⟨_, _, failed, rfl⟩

/-- Three roots. The second has a line with no place in its block, and the third is of no kind. -/
def raggedText : String := "Layout:\n    Layout:\n\nLayout:\n  oops\nRow:"

/-- What is wrong behind the second root is not looked at. -/
theorem compile_manyRoots_ragged :
    ∃ error, compile .builtin raggedText = .error (.malformed error) ∧
      error.fault = .manyRoots ["Layout", "Layout", "Row"] ∧ error.line = some 4 := by
  have lines : scan raggedText =
      [⟨"Layout:", 0, 1, "Layout:"⟩, ⟨"Layout:", 4, 2, "    Layout:"⟩,
       ⟨"Layout:", 0, 4, "Layout:"⟩, ⟨"oops", 2, 5, "  oops"⟩, ⟨"Row:", 0, 6, "Row:"⟩] := by
    decide +kernel
  have frontLines : scan "Layout:\n    Layout:" =
      [⟨"Layout:", 0, 1, "Layout:"⟩, ⟨"Layout:", 4, 2, "    Layout:"⟩] := by
    decide +kernel
  have compiled : compile .builtin "Layout:\n    Layout:" =
      .ok (layoutWidget.withChildren [layoutWidget]) := by
    rw [compile, frontLines]
    exact (parse_eq_of_readsDocument (.root rfl (by decide) rfl rfl
      (.child rfl (by decide) rfl (.finish _ _ _) rfl (.finish _ _ _)))).1
  have begins : splitLines "Layout:\n    Layout:" <+: splitLines raggedText := by
    decide +kernel
  have next : (scan raggedText)[(scan "Layout:\n    Layout:").length]? =
      some ⟨"Layout:", 0, 4, "Layout:"⟩ := by
    rw [lines, frontLines]
    rfl
  obtain ⟨names, goesOn⟩ := compile_manyRoots .builtin raggedText
  obtain ⟨error, roots, failed, fault⟩ := goesOn _ _ _ begins compiled next (by decide)
  obtain ⟨rfl, -, second, isSecond, number⟩ := names error roots failed fault
  rw [lines] at fault isSecond
  cases isSecond
  exact ⟨error, failed, fault.trans (congrArg _ (by decide +kernel)), number⟩

end TuiTemplate
