import TuiTemplate.Proofs.Template.Parsing

set_option autoImplicit false

namespace TuiTemplate

/-- What a block takes and what it leaves: lines at its indent, each with what is nested below
it, up to a line that closes it. -/
structure Block (indent : Nat) (taken left : List Line) : Prop where
  aligned : ∀ line ∈ taken, line.indent % indentStep = 0
  deep : ∀ line ∈ taken, indent ≤ line.indent
  level : ∀ line, taken.head? = some line → line.indent = indent
  closes : Closes indent left

namespace Block

variable {indent : Nat} {line : Line} {taken nested left : List Line}

theorem empty (closes : Closes indent left) : Block indent [] left where
  aligned := List.forall_mem_nil _
  deep := List.forall_mem_nil _
  level := by
    intro line impossible
    cases impossible
  closes := closes

theorem cons (block : Block indent taken left) (aligned : indent % indentStep = 0)
    (level : line.indent = indent)
    (below : ∀ other ∈ nested, other.indent % indentStep = 0 ∧ indent ≤ other.indent) :
    Block indent (line :: (nested ++ taken)) left where
  aligned := by
    refine List.forall_mem_cons.mpr ⟨by rw [level, aligned], ?_⟩
    exact List.forall_mem_append.mpr ⟨fun other inside => (below other inside).1, block.aligned⟩
  deep := by
    refine List.forall_mem_cons.mpr ⟨Nat.le_of_eq level.symm, ?_⟩
    exact List.forall_mem_append.mpr ⟨fun other inside => (below other inside).2, block.deep⟩
  level := by
    intro first isFirst
    rwa [← Option.some.inj isFirst]
  closes := block.closes

end Block

/-- A block that is read to its end takes what belongs to it and nothing else. -/
theorem Reads.block {registry : Registry} {parent : Node} {indent : Nat} {sawChild : Bool}
    {lines left : List Line} {outcome : Except CompileError Node}
    (reads : Reads registry parent indent sawChild lines outcome left)
    (aligned : indent % indentStep = 0) {tree : Node} (success : outcome = .ok tree) :
    ∃ taken, lines = taken ++ left ∧ Block indent taken left := by
  induction reads generalizing tree with
  | finish parent indent sawChild => exact ⟨[], rfl, .empty (.nil indent)⟩
  | dedent shallower onStep =>
      refine ⟨[], rfl, .empty ?_⟩
      intro first isFirst
      cases isFirst
      exact ⟨shallower, onStep⟩
  | @child parent node child grown indent sawChild line rest left final outcome level declares
      resolved inner accepted later innerIh laterIh =>
      obtain ⟨nested, rfl, below⟩ := innerIh (by rw [Nat.add_mod_right, aligned]) rfl
      obtain ⟨taken, rfl, block⟩ := laterIh aligned success
      refine ⟨line :: (nested ++ taken), by simp, block.cons aligned level ?_⟩
      intro other inside
      exact ⟨below.aligned other inside,
        Nat.le_trans (Nat.le_add_right _ _) (below.deep other inside)⟩
  | @setting parent grown indent line rest final outcome level sets accepted later laterIh =>
      obtain ⟨taken, rfl, block⟩ := laterIh aligned success
      exact ⟨line :: taken, rfl, block.cons aligned level (List.forall_mem_nil _)⟩
  | _ => cases success

/-- The lines from one position to another are a block at some indent: all of them are indented by
whole steps and at least so far, the first one just so far, and the line behind them, if there is
one, by whole steps and less. -/
structure BlockAt (lines : List Line) (indent start stop : Nat) : Prop where
  aligned : ∀ index line, start ≤ index → index < stop → lines[index]? = some line →
    line.indent % indentStep = 0
  deep : ∀ index line, start ≤ index → index < stop → lines[index]? = some line →
    indent ≤ line.indent
  level : start < stop → ∀ line, lines[start]? = some line → line.indent = indent
  closes : stop = lines.length ∨ ∃ line, lines[stop]? = some line ∧
    line.indent % indentStep = 0 ∧ line.indent < indent

theorem Block.blockAt {indent position : Nat} {lines taken left : List Line}
    (block : Block indent taken left) (whole : lines.drop position = taken ++ left)
    (inside : position ≤ lines.length) :
    BlockAt lines indent position (position + taken.length) := by
  have place (offset : Nat) : lines[position + offset]? = (taken ++ left)[offset]? := by
    rw [← whole, List.getElem?_drop]
  have member {index : Nat} {line : Line} (after : position ≤ index)
      (before : index < position + taken.length) (here : lines[index]? = some line) :
      line ∈ taken := by
    obtain ⟨offset, rfl⟩ := Nat.exists_eq_add_of_le after
    rw [place, List.getElem?_append_left (by omega)] at here
    exact List.mem_of_getElem? here
  constructor
  · intro index line after before here
    exact block.aligned line (member after before here)
  · intro index line after before here
    exact block.deep line (member after before here)
  · intro some line here
    rw [← Nat.add_zero position, place, List.getElem?_append_left (by omega),
      ← List.head?_eq_getElem?] at here
    exact block.level line here
  · have behind : lines[position + taken.length]? = left.head? := by
      rw [place, List.getElem?_append_right (Nat.le_refl _), Nat.sub_self, List.head?_eq_getElem?]
    cases left with
    | nil =>
        left
        have lengths := congrArg List.length whole
        rw [List.length_drop, List.append_nil] at lengths
        omega
    | cons line rest =>
        right
        obtain ⟨shallower, onStep⟩ := block.closes line rfl
        exact ⟨line, behind, onStep, shallower⟩

end TuiTemplate
