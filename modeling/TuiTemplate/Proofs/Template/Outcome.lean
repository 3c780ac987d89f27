import TuiTemplate.Proofs.Template.Reading

set_option autoImplicit false

namespace TuiTemplate

/-- How reading a whole document comes to its outcome, and which lines it leaves. As for blocks,
there is one rule for each way in which reading can go. -/
inductive ReadsDocument (registry : Registry) :
    List Line → Except CompileError Node → List Line → Prop where
  | noLine : ReadsDocument registry [] (.error (.malformed .noRoot)) []
  | indented {line : Line} {rest : List Line} (deeper : line.indent ≠ 0) :
      ReadsDocument registry (line :: rest) (.error (line.fault (.indentation 0))) (line :: rest)
  | undeclared {line : Line} {rest : List Line} (level : line.indent = 0)
      (noDeclaration : isDeclaration line.text = false) :
      ReadsDocument registry (line :: rest) (.error (line.fault .notDeclaration)) rest
  | unresolved {line : Line} {rest : List Line} {reason : ResolveError}
      (level : line.indent = 0) (declares : isDeclaration line.text = true)
      (failed : registry.resolve (declaredKind line.text) (some line.number) = .error reason) :
      ReadsDocument registry (line :: rest) (.error (.ofResolve reason)) rest
  | notContainer {line : Line} {rest : List Line} {node : Node}
      (level : line.indent = 0) (declares : isDeclaration line.text = true)
      (resolved : registry.resolve (declaredKind line.text) (some line.number) = .ok node)
      (refused : registry.isContainer (declaredKind line.text) = false) :
      ReadsDocument registry (line :: rest)
        (.error (line.fault (.rootNotContainer (declaredKind line.text)))) rest
  | brokenRoot {line : Line} {rest left : List Line} {node : Node} {reason : CompileError}
      (level : line.indent = 0) (declares : isDeclaration line.text = true)
      (resolved : registry.resolve (declaredKind line.text) (some line.number) = .ok node)
      (container : registry.isContainer (declaredKind line.text) = true)
      (block : Reads registry node indentStep false rest (.error reason) left) :
      ReadsDocument registry (line :: rest) (.error reason) left
  | root {line : Line} {rest left : List Line} {node root : Node}
      (level : line.indent = 0) (declares : isDeclaration line.text = true)
      (resolved : registry.resolve (declaredKind line.text) (some line.number) = .ok node)
      (container : registry.isContainer (declaredKind line.text) = true)
      (block : Reads registry node indentStep false rest (.ok root) left) :
      ReadsDocument registry (line :: rest) (afterRoot root left) left

/-- The parser follows the rules. -/
theorem readsDocument_parse (registry : Registry) (lines : List Line) :
    ReadsDocument registry lines (parse registry lines).outcome (parse registry lines).rest := by
  cases lines with
  | nil => exact .noLine
  | cons line rest =>
      simp only [parse]
      split
      · next deeper => exact .indented deeper
      · next level =>
        rw [Classical.not_not] at level
        split
        · next noDeclaration => exact .undeclared level (by simpa using noDeclaration)
        · next declares =>
          rw [Bool.not_eq_true, Bool.not_eq_false'] at declares
          split
          · next reason failed => exact .unresolved level declares failed
          · next node resolved =>
            split
            · next container =>
              have block := reads_parseBlock registry node indentStep false rest
              cases outcome : (parseBlock registry node indentStep false rest).outcome with
              | error reason =>
                  rw [outcome] at block
                  exact .brokenRoot level declares resolved container block
              | ok root =>
                  rw [outcome] at block
                  exact .root level declares resolved container block
            · next refused =>
              exact .notContainer level declares resolved (eq_false_of_ne_true refused)

/-- No other outcome follows from the rules. -/
theorem parse_eq_of_readsDocument {registry : Registry} {lines left : List Line}
    {outcome : Except CompileError Node} (reads : ReadsDocument registry lines outcome left) :
    (parse registry lines).outcome = outcome ∧ (parse registry lines).rest = left := by
  cases reads with
  | noLine => exact ⟨rfl, rfl⟩
  | indented deeper => simp [parse, deeper]
  | undeclared level noDeclaration => simp [parse, level, noDeclaration]
  | unresolved level declares failed => simp [parse, level, declares, failed]
  | notContainer level declares resolved refused =>
      simp [parse, level, declares, resolved, refused]
  | brokenRoot level declares resolved container block =>
      obtain ⟨outcome, left⟩ := parseBlock_eq_of_reads block
      simp [parse, level, declares, resolved, container, outcome, left, Except.bind]
  | root level declares resolved container block =>
      obtain ⟨outcome, left⟩ := parseBlock_eq_of_reads block
      simp [parse, level, declares, resolved, container, outcome, left, Except.bind]

/-- The lines before the position of the parser are those it took. -/
theorem ReadsDocument.exists_taken {registry : Registry} {lines left : List Line}
    {outcome : Except CompileError Node} (reads : ReadsDocument registry lines outcome left) :
    ∃ taken, lines = taken ++ left ∧ taken.length = (parse registry lines).position := by
  obtain ⟨-, rfl⟩ := parse_eq_of_readsDocument reads
  obtain ⟨taken, whole⟩ := (parse registry lines).suffix
  have lengths := congrArg List.length whole
  rw [List.length_append] at lengths
  exact ⟨taken, whole.symm, by rw [Progress.position]; omega⟩

end TuiTemplate
