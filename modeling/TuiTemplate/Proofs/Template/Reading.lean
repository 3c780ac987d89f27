import TuiTemplate.Proofs.Widget.Grown
import TuiTemplate.Template.Parser

set_option autoImplicit false

namespace TuiTemplate

/-- How the block of a widget comes to its outcome, and which lines it leaves. There is one rule
for each way in which a line can meet the block, so that facts about blocks are proved by
induction on the rules and never by opening the parser. -/
inductive Reads (registry : Registry) :
    Node → Nat → Bool → List Line → Except CompileError Node → List Line → Prop where
  | finish (parent : Node) (indent : Nat) (sawChild : Bool) :
      Reads registry parent indent sawChild [] (.ok parent) []
  | dedent {parent : Node} {indent : Nat} {sawChild : Bool} {line : Line} {rest : List Line}
      (shallower : line.indent < indent) (aligned : line.indent % indentStep = 0) :
      Reads registry parent indent sawChild (line :: rest) (.ok parent) (line :: rest)
  | offStep {parent : Node} {indent : Nat} {sawChild : Bool} {line : Line} {rest : List Line}
      (shallower : line.indent < indent) (unaligned : line.indent % indentStep ≠ 0) :
      Reads registry parent indent sawChild (line :: rest)
        (.error (line.fault (.indentation indent))) (line :: rest)
  | tooDeep {parent : Node} {indent : Nat} {sawChild : Bool} {line : Line} {rest : List Line}
      (deeper : indent < line.indent) :
      Reads registry parent indent sawChild (line :: rest)
        (.error (line.fault (.indentation indent))) (line :: rest)
  | unresolved {parent : Node} {indent : Nat} {sawChild : Bool} {line : Line}
      {rest : List Line} {reason : ResolveError}
      (level : line.indent = indent) (declares : isDeclaration line.text = true)
      (failed : registry.resolve (declaredKind line.text) (some line.number) = .error reason) :
      Reads registry parent indent sawChild (line :: rest) (.error (.ofResolve reason)) rest
  | brokenChild {parent node : Node} {indent : Nat} {sawChild : Bool} {line : Line}
      {rest left : List Line} {reason : CompileError}
      (level : line.indent = indent) (declares : isDeclaration line.text = true)
      (resolved : registry.resolve (declaredKind line.text) (some line.number) = .ok node)
      (inner : Reads registry node (indent + indentStep) false rest (.error reason) left) :
      Reads registry parent indent sawChild (line :: rest) (.error reason) left
  | refusedChild {parent node child : Node} {indent : Nat} {sawChild : Bool} {line : Line}
      {rest left : List Line} {reason : TemplateError}
      (level : line.indent = indent) (declares : isDeclaration line.text = true)
      (resolved : registry.resolve (declaredKind line.text) (some line.number) = .ok node)
      (inner : Reads registry node (indent + indentStep) false rest (.ok child) left)
      (refused : parent.acceptChild child (some line.number) = .error reason) :
      Reads registry parent indent sawChild (line :: rest) (.error (.malformed reason)) left
  | child {parent node child grown : Node} {indent : Nat} {sawChild : Bool} {line : Line}
      {rest left final : List Line} {outcome : Except CompileError Node}
      (level : line.indent = indent) (declares : isDeclaration line.text = true)
      (resolved : registry.resolve (declaredKind line.text) (some line.number) = .ok node)
      (inner : Reads registry node (indent + indentStep) false rest (.ok child) left)
      (accepted : parent.acceptChild child (some line.number) = .ok grown)
      (later : Reads registry grown indent true left outcome final) :
      Reads registry parent indent sawChild (line :: rest) outcome final
  | lateSetting {parent : Node} {indent : Nat} {line : Line} {rest : List Line}
      (level : line.indent = indent) (sets : isAttribute line.text = true) :
      Reads registry parent indent true (line :: rest)
        (.error (line.fault .lateAttribute)) rest
  | refusedSetting {parent : Node} {indent : Nat} {line : Line} {rest : List Line}
      {reason : TemplateError}
      (level : line.indent = indent) (sets : isAttribute line.text = true)
      (refused : parent.acceptAttribute (attributeParts line.text).1 (attributeParts line.text).2
        (some line.number) = .error reason) :
      Reads registry parent indent false (line :: rest) (.error (.malformed reason)) rest
  | setting {parent grown : Node} {indent : Nat} {line : Line} {rest final : List Line}
      {outcome : Except CompileError Node}
      (level : line.indent = indent) (sets : isAttribute line.text = true)
      (accepted : parent.acceptAttribute (attributeParts line.text).1 (attributeParts line.text).2
        (some line.number) = .ok grown)
      (later : Reads registry grown indent false rest outcome final) :
      Reads registry parent indent false (line :: rest) outcome final
  | stray {parent : Node} {indent : Nat} {sawChild : Bool} {line : Line} {rest : List Line}
      (level : line.indent = indent) (noDeclaration : isDeclaration line.text = false)
      (noAttribute : isAttribute line.text = false) :
      Reads registry parent indent sawChild (line :: rest)
        (.error (line.fault .notInBlock)) rest

theorem isDeclaration_eq_false_of_isAttribute {text : String}
    (sets : isAttribute text = true) : isDeclaration text = false := by
  simp only [isAttribute, Bool.and_eq_true, Bool.not_eq_true'] at sets
  exact sets.2

/-- The parser follows the rules. -/
theorem reads_parseBlock (registry : Registry) (parent : Node) (indent : Nat) (sawChild : Bool)
    (lines : List Line) :
    Reads registry parent indent sawChild lines
      (parseBlock registry parent indent sawChild lines).outcome
      (parseBlock registry parent indent sawChild lines).rest := by
  fun_induction parseBlock registry parent indent sawChild lines with
  | case1 => exact .finish _ _ _
  | case2 parent indent sawChild line rest shallower aligned => exact .dedent shallower aligned
  | case3 parent indent sawChild line rest shallower unaligned =>
      exact .offStep shallower unaligned
  | case4 parent indent sawChild line rest notShallower notLevel =>
      exact .tooDeep (by omega)
  | case5 parent indent sawChild line rest notShallower notOff declares reason failed =>
      exact .unresolved (Classical.not_not.mp notOff) declares failed
  | case6 parent indent sawChild line rest notShallower notOff declares node resolved reason left
      suffix parsed inner =>
      rw [parsed] at inner
      exact .brokenChild (Classical.not_not.mp notOff) declares resolved inner
  | case7 parent indent sawChild line rest notShallower notOff declares node resolved child left
      suffix parsed reason refused inner =>
      rw [parsed] at inner
      exact .refusedChild (Classical.not_not.mp notOff) declares resolved inner refused
  | case8 parent indent sawChild line rest notShallower notOff declares node resolved child left
      suffix parsed grown accepted shorter inner later =>
      rw [parsed] at inner
      exact .child (Classical.not_not.mp notOff) declares resolved inner accepted later
  | case9 parent indent line rest notShallower notOff noDeclaration sets =>
      exact .lateSetting (Classical.not_not.mp notOff) sets
  | case10 parent indent sawChild line rest notShallower notOff noDeclaration sets noChild parts
      reason refused =>
      rw [eq_false_of_ne_true noChild]
      exact .refusedSetting (Classical.not_not.mp notOff) sets refused
  | case11 parent indent sawChild line rest notShallower notOff noDeclaration sets noChild parts
      grown accepted later =>
      rw [eq_false_of_ne_true noChild] at later ⊢
      exact .setting (Classical.not_not.mp notOff) sets accepted later
  | case12 parent indent sawChild line rest notShallower notOff noDeclaration noAttribute =>
      exact .stray (Classical.not_not.mp notOff) (eq_false_of_ne_true noDeclaration)
        (eq_false_of_ne_true noAttribute)

theorem Progress.eq_mk {lines left : List Line} {p : Progress lines}
    {outcome : Except CompileError Node} (parts : p.outcome = outcome ∧ p.rest = left) :
    ∃ suffix, p = ⟨outcome, left, suffix⟩ := by
  obtain ⟨rfl, rfl⟩ := parts
  exact ⟨p.suffix, rfl⟩

/-- No other outcome follows from the rules. -/
theorem parseBlock_eq_of_reads {registry : Registry} {parent : Node} {indent : Nat}
    {sawChild : Bool} {lines left : List Line} {outcome : Except CompileError Node}
    (reads : Reads registry parent indent sawChild lines outcome left) :
    (parseBlock registry parent indent sawChild lines).outcome = outcome ∧
      (parseBlock registry parent indent sawChild lines).rest = left := by
  induction reads with
  | finish parent indent sawChild => simp [parseBlock]
  | dedent shallower aligned => simp [parseBlock, shallower, aligned]
  | offStep shallower unaligned => simp [parseBlock, shallower, unaligned]
  | tooDeep deeper =>
      simp [parseBlock, Nat.not_lt_of_gt deeper, Nat.ne_of_gt deeper]
  | unresolved level declares failed =>
      rw [parseBlock]
      simp [level, declares, failed]
  | brokenChild level declares resolved inner ih =>
      obtain ⟨suffix, parsed⟩ := Progress.eq_mk ih
      rw [parseBlock]
      simp [level, declares, resolved, parsed]
  | refusedChild level declares resolved inner refused ih =>
      obtain ⟨suffix, parsed⟩ := Progress.eq_mk ih
      rw [parseBlock]
      simp [level, declares, resolved, parsed, refused]
  | child level declares resolved inner accepted later ih laterIh =>
      obtain ⟨suffix, parsed⟩ := Progress.eq_mk ih
      rw [parseBlock]
      simpa [level, declares, resolved, parsed, accepted, Progress.within] using laterIh
  | lateSetting level sets =>
      rw [parseBlock]
      simp [level, sets, isDeclaration_eq_false_of_isAttribute sets]
  | refusedSetting level sets refused =>
      rw [parseBlock]
      simp [level, sets, isDeclaration_eq_false_of_isAttribute sets, refused]
  | setting level sets accepted later laterIh =>
      rw [parseBlock]
      simpa [level, sets, isDeclaration_eq_false_of_isAttribute sets, accepted, Progress.within]
        using laterIh
  | stray level noDeclaration noAttribute =>
      rw [parseBlock]
      simp [level, noDeclaration, noAttribute]

theorem Reads.suffix {registry : Registry} {parent : Node} {indent : Nat} {sawChild : Bool}
    {lines left : List Line} {outcome : Except CompileError Node}
    (reads : Reads registry parent indent sawChild lines outcome left) : left <:+ lines := by
  obtain ⟨-, rfl⟩ := parseBlock_eq_of_reads reads
  exact (parseBlock registry parent indent sawChild lines).suffix

/-- Neither attributes nor children change the kind of a widget. -/
theorem Reads.kind_eq {registry : Registry} {parent : Node} {indent : Nat} {sawChild : Bool}
    {lines left : List Line} {outcome : Except CompileError Node}
    (reads : Reads registry parent indent sawChild lines outcome left) {tree : Node}
    (success : outcome = .ok tree) : tree.kind = parent.kind := by
  induction reads generalizing tree with
  | finish parent indent sawChild =>
      cases success
      rfl
  | dedent shallower aligned =>
      cases success
      rfl
  | child level declares resolved inner accepted later innerIh laterIh =>
      rw [laterIh success, Node.eq_withChildren_of_acceptChild accepted, Node.kind_withChildren]
  | setting level sets accepted later laterIh =>
      obtain ⟨-, grown⟩ := Node.acceptAttribute_eq_ok_iff.mp accepted
      rw [laterIh success, grown, Node.kind_withExplicit]
  | _ => cases success

/-- A property that fresh widgets have and that no line takes away. -/
structure Invariant (registry : Registry) (lines : List Line) (P : Node → Prop) : Prop where
  fresh : ∀ line ∈ lines, isDeclaration line.text = true → ∀ node,
    registry.resolve (declaredKind line.text) (some line.number) = .ok node → P node
  set : ∀ line ∈ lines, isAttribute line.text = true → ∀ node grown, P node →
    node.acceptAttribute (attributeParts line.text).1 (attributeParts line.text).2
      (some line.number) = .ok grown → P grown
  attach : ∀ node child grown line, P node → P child →
    node.acceptChild child line = .ok grown → P grown

theorem Invariant.of_reads {registry : Registry} {all : List Line} {P : Node → Prop}
    (invariant : Invariant registry all P) {parent : Node} {indent : Nat} {sawChild : Bool}
    {lines left : List Line} {outcome : Except CompileError Node}
    (reads : Reads registry parent indent sawChild lines outcome left)
    (inside : lines ⊆ all) (start : P parent) {tree : Node} (success : outcome = .ok tree) :
    P tree := by
  induction reads generalizing tree with
  | finish parent indent sawChild =>
      cases success
      exact start
  | dedent shallower aligned =>
      cases success
      exact start
  | @child parent node child grown indent sawChild line rest left final outcome level declares
      resolved inner accepted later innerIh laterIh =>
      have below : rest ⊆ all := fun other member => inside (List.mem_cons_of_mem line member)
      have node := invariant.fresh line (inside List.mem_cons_self) declares _ resolved
      have child := innerIh below node rfl
      have after : left ⊆ all := fun other member => below (inner.suffix.subset member)
      exact laterIh after (invariant.attach _ _ _ _ start child accepted) success
  | @setting parent grown indent line rest final outcome level sets accepted later laterIh =>
      have below : rest ⊆ all := fun other member => inside (List.mem_cons_of_mem line member)
      exact laterIh below
        (invariant.set line (inside List.mem_cons_self) sets _ _ start accepted) success
  | _ => cases success

theorem afterRoot_eq_ok_iff {root tree : Node} {lines : List Line} :
    afterRoot root lines = .ok tree ↔ lines = [] ∧ root = tree := by
  cases lines with
  | nil => simp [afterRoot]
  | cons line rest =>
      simp only [afterRoot, reduceCtorEq, false_and, iff_false]
      split <;> simp [Line.fault]

/-- A document is read when its first line declares a container on the top level and the block of
that container takes all other lines. -/
theorem parse_eq_ok_iff {registry : Registry} {lines : List Line} {tree : Node} :
    (parse registry lines).outcome = .ok tree ↔
      ∃ line rest node, lines = line :: rest ∧ line.indent = 0 ∧
        isDeclaration line.text = true ∧
        registry.resolve (declaredKind line.text) (some line.number) = .ok node ∧
        registry.isContainer (declaredKind line.text) = true ∧
        Reads registry node indentStep false rest (.ok tree) [] := by
  constructor
  · intro parsed
    cases lines with
    | nil => simp [parse] at parsed
    | cons line rest =>
        simp only [parse] at parsed
        split at parsed
        · cases parsed
        · next topLevel =>
          split at parsed
          · cases parsed
          · next declares =>
            split at parsed
            · cases parsed
            · next node resolved =>
              split at parsed
              · next container =>
                have block := reads_parseBlock registry node indentStep false rest
                cases outcome : (parseBlock registry node indentStep false rest).outcome with
                | error reason => simp [outcome, Except.bind] at parsed
                | ok root =>
                    rw [outcome] at parsed block
                    obtain ⟨left, rfl⟩ := afterRoot_eq_ok_iff.mp parsed
                    rw [left] at block
                    exact ⟨line, rest, node, rfl, by omega, by simpa using declares, resolved,
                      container, block⟩
              · cases parsed
  · rintro ⟨line, rest, node, rfl, topLevel, declares, resolved, container, block⟩
    obtain ⟨outcome, left⟩ := parseBlock_eq_of_reads block
    simp [parse, topLevel, declares, resolved, container, outcome, left, Except.bind, afterRoot]

theorem isContainer_of_parse_eq_ok {registry : Registry} {lines : List Line} {tree : Node}
    (parsed : (parse registry lines).outcome = .ok tree) :
    registry.isContainer tree.kind = true := by
  obtain ⟨line, rest, node, rfl, topLevel, declares, resolved, container, block⟩ :=
    parse_eq_ok_iff.mp parsed
  rwa [block.kind_eq rfl, Registry.kind_of_resolve resolved]

/-- A document that is read is read to its end. -/
theorem position_of_parse_eq_ok {registry : Registry} {lines : List Line} {tree : Node}
    (parsed : (parse registry lines).outcome = .ok tree) :
    (parse registry lines).position = lines.length := by
  obtain ⟨line, rest, node, rfl, topLevel, declares, resolved, container, block⟩ :=
    parse_eq_ok_iff.mp parsed
  obtain ⟨outcome, left⟩ := parseBlock_eq_of_reads block
  simp [Progress.position, parse, topLevel, declares, resolved, container, left]

theorem Invariant.of_parse {registry : Registry} {lines : List Line} {P : Node → Prop}
    (invariant : Invariant registry lines P) {tree : Node}
    (parsed : (parse registry lines).outcome = .ok tree) : P tree := by
  obtain ⟨line, rest, node, rfl, topLevel, declares, resolved, container, block⟩ :=
    parse_eq_ok_iff.mp parsed
  exact invariant.of_reads block (fun other member => List.mem_cons_of_mem line member)
    (invariant.fresh line List.mem_cons_self declares _ resolved) rfl

/-- What a template declares grows from what the registry makes. -/
theorem Node.Grown.of_compile {registry : Registry} {source : String} {tree : Node}
    (compiled : compile registry source = .ok tree) : tree.Grown registry.Resolves := by
  have invariant : Invariant registry (scan source) (Node.Grown registry.Resolves) :=
    ⟨fun _ _ _ _ resolved => .fresh ⟨_, _, resolved⟩,
      fun _ _ _ _ _ before accepted => before.set accepted,
      fun _ _ _ _ before below accepted => before.attach below accepted⟩
  exact invariant.of_parse compiled

end TuiTemplate
