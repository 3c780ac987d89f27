import TuiTemplate.Proofs.Template.Block
import TuiTemplate.Proofs.Template.Outcome

set_option autoImplicit false

namespace TuiTemplate

/-- A block that is being read: its widget as far as it is filled, the indent of its lines, and
whether a child was attached. -/
structure OpenBlock where
  widget : Node
  indent : Nat
  sawChild : Bool

/-- Where reading stands: the innermost block, the blocks around it from the inside out, each with
the line that declares the child it waits for, and how many lines were taken. -/
structure Descent where
  block : OpenBlock
  around : List (Line × OpenBlock)
  position : Nat

inductive Turn where
  | going (descent : Descent)
  | ended (outcome : Except CompileError Node) (position : Nat)

/-- The end of the innermost block. Its widget is attached to the one around it, if there is one. -/
def Turn.close (outcome : Except CompileError Node) (around : List (Line × OpenBlock))
    (position : Nat) : Turn :=
  match outcome with
  | .error reason => .ended (.error reason) position
  | .ok widget =>
    match around with
    | [] => .ended (.ok widget) position
    | (line, outer) :: others =>
      match outer.widget.acceptChild widget (some line.number) with
      | .error reason => .ended (.error (.malformed reason)) position
      | .ok grown => .going ⟨⟨grown, outer.indent, true⟩, others, position⟩

/-- One round of reading. It looks at the next line and takes it, with a new innermost block if the
line is a declaration, or it ends the innermost block, or it fails. -/
def Descent.round (registry : Registry) (lines : List Line) (d : Descent) : Turn :=
  match lines[d.position]? with
  | none => .close (.ok d.block.widget) d.around d.position
  | some line =>
    if line.indent < d.block.indent then
      if line.indent % indentStep = 0 then .close (.ok d.block.widget) d.around d.position
      else .ended (.error (line.fault (.indentation d.block.indent))) d.position
    else if line.indent ≠ d.block.indent then
      .ended (.error (line.fault (.indentation d.block.indent))) d.position
    else if isDeclaration line.text then
      match registry.resolve (declaredKind line.text) (some line.number) with
      | .error reason => .ended (.error (.ofResolve reason)) (d.position + 1)
      | .ok node =>
        .going ⟨⟨node, d.block.indent + indentStep, false⟩, (line, d.block) :: d.around,
          d.position + 1⟩
    else if isAttribute line.text then
      if d.block.sawChild then .ended (.error (line.fault .lateAttribute)) (d.position + 1)
      else
        match d.block.widget.acceptAttribute (attributeParts line.text).1
            (attributeParts line.text).2 (some line.number) with
        | .error reason => .ended (.error (.malformed reason)) (d.position + 1)
        | .ok grown => .going ⟨{ d.block with widget := grown }, d.around, d.position + 1⟩
    else .ended (.error (line.fault .notInBlock)) (d.position + 1)

namespace Turn

/-- Reading ends in so many rounds, with an outcome and a position. -/
inductive Ends (registry : Registry) (lines : List Line) :
    Turn → Nat → Except CompileError Node → Nat → Prop where
  | ended (outcome : Except CompileError Node) (position : Nat) :
      Ends registry lines (.ended outcome position) 0 outcome position
  | going {d : Descent} {rounds : Nat} {outcome : Except CompileError Node} {position : Nat}
      (later : Ends registry lines (d.round registry lines) rounds outcome position) :
      Ends registry lines (.going d) (rounds + 1) outcome position

def position : Turn → Nat
  | .going d => d.position
  | .ended _ position => position

/-- A bound on the rounds that are left: each line is taken once, and each block that is open or that
a line opens is closed once. -/
def bound (lines : List Line) : Turn → Nat
  | .going d => 2 * (lines.length - d.position) + d.around.length + 1
  | .ended _ _ => 0

@[simp] theorem bound_going (lines : List Line) (d : Descent) :
    (Turn.going d).bound lines = 2 * (lines.length - d.position) + d.around.length + 1 := rfl

/-- What every turn keeps: the position is not before the one it was, and not past the last line, and
fewer rounds are left. -/
structure Follows (lines : List Line) (d : Descent) (turn : Turn) : Prop where
  forward : d.position ≤ turn.position
  inside : d.position ≤ lines.length → turn.position ≤ lines.length
  fewer : turn.bound lines < (Turn.going d).bound lines

section follows

variable {lines : List Line} {d : Descent}

theorem follows_close (widget : Node) :
    Follows lines d (close (.ok widget) d.around d.position) := by
  unfold close
  rcases waiting : d.around with _ | ⟨⟨line, outer⟩, others⟩
  · exact ⟨Nat.le_refl _, id, Nat.succ_pos _⟩
  · dsimp only
    split
    · exact ⟨Nat.le_refl _, id, Nat.succ_pos _⟩
    · refine ⟨Nat.le_refl _, id, ?_⟩
      simp only [bound_going, waiting, List.length_cons]
      omega

theorem follows_stop (outcome : Except CompileError Node) :
    Follows lines d (.ended outcome d.position) :=
  ⟨Nat.le_refl _, id, Nat.succ_pos _⟩

variable {line : Line} (found : lines[d.position]? = some line)

include found

theorem follows_take (outcome : Except CompileError Node) :
    Follows lines d (.ended outcome (d.position + 1)) := by
  have next : d.position < lines.length := (List.getElem?_eq_some_iff.mp found).1
  exact ⟨Nat.le_succ _, fun _ => next, Nat.succ_pos _⟩

theorem follows_fill (block : OpenBlock) :
    Follows lines d (.going ⟨block, d.around, d.position + 1⟩) := by
  have next : d.position < lines.length := (List.getElem?_eq_some_iff.mp found).1
  refine ⟨Nat.le_succ _, fun _ => next, ?_⟩
  simp only [bound_going]
  omega

/-- A line that is taken pays for the block that it opens. -/
theorem follows_open (block outer : OpenBlock) :
    Follows lines d (.going ⟨block, (line, outer) :: d.around, d.position + 1⟩) := by
  have next : d.position < lines.length := (List.getElem?_eq_some_iff.mp found).1
  refine ⟨Nat.le_succ _, fun _ => next, ?_⟩
  simp only [bound_going, List.length_cons]
  omega

end follows

theorem follows_round (registry : Registry) (lines : List Line) (d : Descent) :
    Follows lines d (d.round registry lines) := by
  unfold Descent.round
  split
  · exact follows_close _
  · next line found =>
    split
    · split
      · exact follows_close _
      · exact follows_stop _
    · split
      · exact follows_stop _
      · split
        · split
          · exact follows_take found _
          · exact follows_open found _ _
        · split
          · split
            · exact follows_take found _
            · split
              · exact follows_take found _
              · exact follows_fill found _
          · exact follows_take found _

namespace Ends

variable {registry : Registry} {lines : List Line} {turn : Turn} {rounds final : Nat}
  {outcome : Except CompileError Node}

/-- Whatever the lines are, reading is over after as many rounds as were left. -/
theorem rounds_le (ends : Ends registry lines turn rounds outcome final) :
    rounds ≤ turn.bound lines := by
  induction ends with
  | ended outcome position => exact Nat.le_refl _
  | @going d rounds outcome position later ih =>
      exact Nat.lt_of_le_of_lt ih (follows_round registry lines d).fewer

theorem position_le (ends : Ends registry lines turn rounds outcome final) :
    turn.position ≤ final := by
  induction ends with
  | ended outcome position => exact Nat.le_refl _
  | @going d rounds outcome position later ih =>
      exact Nat.le_trans (follows_round registry lines d).forward ih

theorem le_length (ends : Ends registry lines turn rounds outcome final)
    (inside : turn.position ≤ lines.length) : final ≤ lines.length := by
  induction ends with
  | ended outcome position => exact inside
  | @going d rounds outcome position later ih =>
      exact ih ((follows_round registry lines d).inside inside)

end Ends

end Turn

section suffix

variable {lines here : List Line}

theorem getElem?_of_suffix (suffix : here <:+ lines) :
    lines[lines.length - here.length]? = here.head? := by
  obtain ⟨taken, rfl⟩ := suffix
  rw [List.length_append, Nat.add_sub_cancel, List.getElem?_append_right (Nat.le_refl _),
    Nat.sub_self, List.head?_eq_getElem?]

theorem position_of_suffix {line : Line} {rest : List Line} (suffix : line :: rest <:+ lines) :
    lines.length - rest.length = lines.length - (line :: rest).length + 1 := by
  have shorter := suffix.length_le
  rw [List.length_cons] at *
  omega

end suffix

namespace Descent

variable {registry : Registry} {lines : List Line} {d : Descent} {line : Line}
  (next : lines[d.position]? = some line) (level : line.indent = d.block.indent)

include next level

theorem round_of_declares (declares : isDeclaration line.text = true) :
    d.round registry lines =
      match registry.resolve (declaredKind line.text) (some line.number) with
      | .error reason => .ended (.error (.ofResolve reason)) (d.position + 1)
      | .ok node =>
        .going ⟨⟨node, d.block.indent + indentStep, false⟩, (line, d.block) :: d.around,
          d.position + 1⟩ := by
  simp only [round, next, level, Nat.lt_irrefl, ne_eq, not_true_eq_false, declares, ↓reduceIte]

theorem round_of_sets (sets : isAttribute line.text = true) :
    d.round registry lines =
      if d.block.sawChild then .ended (.error (line.fault .lateAttribute)) (d.position + 1)
      else
        match d.block.widget.acceptAttribute (attributeParts line.text).1
            (attributeParts line.text).2 (some line.number) with
        | .error reason => .ended (.error (.malformed reason)) (d.position + 1)
        | .ok grown => .going ⟨{ d.block with widget := grown }, d.around, d.position + 1⟩ := by
  have noDeclaration := isDeclaration_eq_false_of_isAttribute sets
  simp only [round, next, level, Nat.lt_irrefl, ne_eq, not_true_eq_false, noDeclaration, sets,
    Bool.false_eq_true, ↓reduceIte]

end Descent

/-- A round that opens a block leads to the rounds inside of it. -/
theorem Turn.Ends.opened {registry : Registry} {lines rest : List Line} {line : Line}
    {block : OpenBlock} {around : List (Line × OpenBlock)} {node : Node} {rounds position : Nat}
    {final : Except CompileError Node} (suffix : line :: rest <:+ lines)
    (level : line.indent = block.indent) (declares : isDeclaration line.text = true)
    (resolved : registry.resolve (declaredKind line.text) (some line.number) = .ok node)
    (inside : Turn.Ends registry lines
      (.going ⟨⟨node, block.indent + indentStep, false⟩, (line, block) :: around,
        lines.length - rest.length⟩) rounds final position) :
    Turn.Ends registry lines (.going ⟨block, around, lines.length - (line :: rest).length⟩)
      (rounds + 1) final position := by
  refine .going ?_
  rw [Descent.round_of_declares (getElem?_of_suffix suffix) level declares, resolved,
    ← position_of_suffix suffix]
  exact inside

/-- Rounds lead through a block as the rules tell, and when it is over, on to the block around
it. -/
theorem Reads.ends {registry : Registry} {parent : Node} {indent : Nat} {sawChild : Bool}
    {lines here left : List Line} {outcome final : Except CompileError Node}
    (reads : Reads registry parent indent sawChild here outcome left) (suffix : here <:+ lines)
    (around : List (Line × OpenBlock)) {rounds position : Nat}
    (closed : Turn.Ends registry lines
      (.close outcome around (lines.length - left.length)) rounds final position) :
    ∃ more, Turn.Ends registry lines
      (.going ⟨⟨parent, indent, sawChild⟩, around, lines.length - here.length⟩) more final
      position := by
  -- The blocks around are arbitrary, since inside of a child there is one more of them.
  induction reads generalizing around rounds with
  | finish parent indent sawChild =>
      have next := getElem?_of_suffix suffix
      refine ⟨rounds + 1, .going ?_⟩
      simp only [Descent.round, next]
      exact closed
  | dedent shallower aligned =>
      have next := getElem?_of_suffix suffix
      refine ⟨rounds + 1, .going ?_⟩
      simp only [Descent.round, next, List.head?_cons, shallower, aligned, ↓reduceIte]
      exact closed
  | offStep shallower unaligned =>
      have next := getElem?_of_suffix suffix
      refine ⟨rounds + 1, .going ?_⟩
      simp only [Descent.round, next, List.head?_cons, shallower, unaligned, ↓reduceIte]
      exact closed
  | tooDeep deeper =>
      have next := getElem?_of_suffix suffix
      refine ⟨rounds + 1, .going ?_⟩
      simp only [Descent.round, next, List.head?_cons, Nat.not_lt_of_gt deeper,
        Nat.ne_of_gt deeper, ne_eq, not_false_eq_true, ↓reduceIte]
      exact closed
  | unresolved level declares failed =>
      rw [position_of_suffix suffix] at closed
      refine ⟨rounds + 1, .going ?_⟩
      rw [Descent.round_of_declares (getElem?_of_suffix suffix) level declares, failed]
      exact closed
  | @brokenChild parent node indent sawChild line rest left reason level declares resolved inner
      ih =>
      have below := (List.suffix_cons line rest).trans suffix
      obtain ⟨more, ends⟩ := ih below ((line, ⟨parent, indent, sawChild⟩) :: around) closed
      exact ⟨more + 1, ends.opened suffix level declares resolved⟩
  | @refusedChild parent node child indent sawChild line rest left reason level declares resolved
      inner refused ih =>
      have below := (List.suffix_cons line rest).trans suffix
      have attached : Turn.Ends registry lines
          (.close (.ok child) ((line, ⟨parent, indent, sawChild⟩) :: around)
            (lines.length - left.length)) rounds final position := by
        simp only [Turn.close, refused]
        exact closed
      obtain ⟨more, ends⟩ := ih below _ attached
      exact ⟨more + 1, ends.opened suffix level declares resolved⟩
  | @child parent node child grown indent sawChild line rest left after outcome level declares
      resolved inner accepted later ih laterIh =>
      have below := (List.suffix_cons line rest).trans suffix
      obtain ⟨afterwards, goes⟩ := laterIh (inner.suffix.trans below) around closed
      have attached : Turn.Ends registry lines
          (.close (.ok child) ((line, ⟨parent, indent, sawChild⟩) :: around)
            (lines.length - left.length)) afterwards final position := by
        simp only [Turn.close, accepted]
        exact goes
      obtain ⟨more, ends⟩ := ih below _ attached
      exact ⟨more + 1, ends.opened suffix level declares resolved⟩
  | lateSetting level sets =>
      rw [position_of_suffix suffix] at closed
      refine ⟨rounds + 1, .going ?_⟩
      rw [Descent.round_of_sets (getElem?_of_suffix suffix) level sets]
      exact closed
  | refusedSetting level sets refused =>
      rw [position_of_suffix suffix] at closed
      refine ⟨rounds + 1, .going ?_⟩
      rw [Descent.round_of_sets (getElem?_of_suffix suffix) level sets, refused]
      exact closed
  | @setting parent grown indent line rest after outcome level sets accepted later ih =>
      obtain ⟨more, ends⟩ := ih ((List.suffix_cons line rest).trans suffix) around closed
      rw [position_of_suffix suffix] at ends
      refine ⟨more + 1, .going ?_⟩
      rw [Descent.round_of_sets (getElem?_of_suffix suffix) level sets, accepted]
      exact ends
  | stray level noDeclaration noAttribute =>
      have next := getElem?_of_suffix suffix
      rw [position_of_suffix suffix] at closed
      refine ⟨rounds + 1, .going ?_⟩
      simp only [Descent.round, next, List.head?_cons, level, Nat.lt_irrefl, ne_eq,
        not_true_eq_false, noDeclaration, noAttribute, Bool.false_eq_true, ↓reduceIte]
      exact closed

/-- The rounds of a block that is read from a line on come to what the rules tell, with the lines
taken that are not left. -/
theorem Reads.exists_ends {registry : Registry} {parent : Node} {indent : Nat}
    {lines taken left : List Line} {outcome : Except CompileError Node} {position : Nat}
    (reads : Reads registry parent indent false (lines.drop position) outcome left)
    (whole : lines.drop position = taken ++ left) (inside : position ≤ lines.length) :
    ∃ rounds, Turn.Ends registry lines (.going ⟨⟨parent, indent, false⟩, [], position⟩) rounds
      outcome (position + taken.length) := by
  have lengths := congrArg List.length whole
  rw [List.length_append, List.length_drop] at lengths
  have start : lines.length - (lines.drop position).length = position := by
    rw [List.length_drop]
    omega
  have stop : lines.length - left.length = position + taken.length := by omega
  have closed : Turn.Ends registry lines (.close outcome [] (lines.length - left.length)) 0 outcome
      (lines.length - left.length) := by
    cases outcome with
    | error reason => exact .ended _ _
    | ok tree => exact .ended _ _
  have ends := reads.ends (List.drop_suffix position lines) [] closed
  rwa [start, stop] at ends

/-- Behind the block of the root comes the end, or a line on the top level. -/
theorem indent_eq_zero_behind_root {registry : Registry} {line : Line} {rest : List Line}
    {node root : Node} (level : line.indent = 0) (declares : isDeclaration line.text = true)
    (resolved : registry.resolve (declaredKind line.text) (some line.number) = .ok node)
    (container : registry.isContainer (declaredKind line.text) = true)
    (success : (parseBlock registry node indentStep false rest).outcome = .ok root) {next : Line}
    (behind : (parse registry (line :: rest)).rest.head? = some next) : next.indent = 0 := by
  have reads := reads_parseBlock registry node indentStep false rest
  rw [success] at reads
  obtain ⟨-, left⟩ := parse_eq_of_readsDocument (.root level declares resolved container reads)
  obtain ⟨taken, -, block⟩ := reads.block rfl rfl
  have closes := block.closes
  rw [left] at behind
  obtain ⟨after, whole⟩ := List.head?_eq_some_iff.mp behind
  rw [whole] at closes
  exact closes.indent_eq_zero

/-- From any line on, reading a block is over after at most two rounds for each line and one more, none
of which goes back or past the last line. It leaves the lines from some position on, and if it is
read to its end, the lines up to there are a block. Behind the block of the root there is no line or
one on the top level. -/
theorem parseBlock_takes_block (registry : Registry) {lines : List Line} {position : Nat}
    (inside : position ≤ lines.length) (parent : Node) {indent : Nat}
    (aligned : indent % indentStep = 0) :
    (∃ rounds stop, rounds ≤ 2 * (lines.length - position) + 1 ∧
      Turn.Ends registry lines (.going ⟨⟨parent, indent, false⟩, [], position⟩) rounds
        (parseBlock registry parent indent false (lines.drop position)).outcome stop ∧
      (parseBlock registry parent indent false (lines.drop position)).rest = lines.drop stop ∧
      position ≤ stop ∧ stop ≤ lines.length ∧
      ∀ tree, (parseBlock registry parent indent false (lines.drop position)).outcome = .ok tree →
        BlockAt lines indent position stop) ∧
    (∀ d, Turn.Follows lines d (d.round registry lines)) ∧
    ∀ line rest node root, lines = line :: rest → line.indent = 0 →
      isDeclaration line.text = true →
      registry.resolve (declaredKind line.text) (some line.number) = .ok node →
      registry.isContainer (declaredKind line.text) = true →
      (parseBlock registry node indentStep false rest).outcome = .ok root →
      ∀ next, (parse registry lines).rest.head? = some next → next.indent = 0 := by
  refine ⟨?_, Turn.follows_round registry lines, ?_⟩
  · have reads := reads_parseBlock registry parent indent false (lines.drop position)
    obtain ⟨taken, whole⟩ := reads.suffix
    obtain ⟨rounds, ends⟩ := reads.exists_ends whole.symm inside
    refine ⟨rounds, position + taken.length, ends.rounds_le, ends, ?_, ends.position_le,
      ends.le_length inside, ?_⟩
    · have dropped := congrArg (List.drop taken.length) whole
      rwa [List.drop_left, List.drop_drop] at dropped
    · intro tree success
      obtain ⟨same, spelled, block⟩ := reads.block aligned success
      obtain rfl := List.append_cancel_right (whole.trans spelled)
      exact block.blockAt spelled inside
  · rintro line rest node root rfl level declares resolved container success next behind
    exact indent_eq_zero_behind_root level declares resolved container success behind

def twoRoots : List Line :=
  [⟨"Layout:", 0, 1, "Layout:"⟩, ⟨"Paragraph:", 4, 2, "    Paragraph:"⟩,
    ⟨"text: a", 8, 3, "        text: a"⟩, ⟨"Layout:", 0, 4, "Layout:"⟩]

/-- The block of the first root is a paragraph with its attribute, and ends before the second. -/
theorem parseBlock_takes_block_twoRoots :
    1 ≤ twoRoots.length ∧ 4 % indentStep = 0 ∧
      (∃ rounds tree, rounds ≤ 7 ∧ Turn.Ends .builtin twoRoots
        (.going ⟨⟨layoutWidget, 4, false⟩, [], 1⟩) rounds (.ok tree) 3) ∧
      BlockAt twoRoots 4 1 3 ∧
      (parse .builtin twoRoots).rest.head? = some ⟨"Layout:", 0, 4, "Layout:"⟩ ∧
      ∀ next, (parse .builtin twoRoots).rest.head? = some next → next.indent = 0 := by
  have reads : Reads .builtin layoutWidget 4 false (twoRoots.drop 1) (.ok _)
      [⟨"Layout:", 0, 4, "Layout:"⟩] :=
    .child rfl (by decide) rfl (.setting rfl (by decide) rfl (.dedent (by decide) rfl)) rfl
      (.dedent (by decide) rfl)
  obtain ⟨success, left⟩ := parseBlock_eq_of_reads reads
  obtain ⟨⟨rounds, stop, few, ends, rest, -, inside, block⟩, -, behindRoot⟩ :=
    parseBlock_takes_block .builtin (show 1 ≤ twoRoots.length by decide) layoutWidget
      (show 4 % indentStep = 0 by decide)
  have last : stop = 3 := by
    have lengths := congrArg List.length (left.symm.trans rest)
    simp only [List.length_cons, List.length_nil, List.length_drop, twoRoots] at lengths inside
    omega
  subst last
  rw [success] at ends
  have document : ReadsDocument .builtin twoRoots (afterRoot _ [⟨"Layout:", 0, 4, "Layout:"⟩]) _ :=
    .root rfl (by decide) rfl rfl reads
  obtain ⟨-, second⟩ := parse_eq_of_readsDocument document
  refine ⟨by decide, by decide, ⟨rounds, _, few, ends⟩, block _ success, ?_, ?_⟩
  · rw [second, List.head?_cons]
  · exact behindRoot _ _ _ _ rfl rfl (by decide) rfl rfl success

end TuiTemplate
