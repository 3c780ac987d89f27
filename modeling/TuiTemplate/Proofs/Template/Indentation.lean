import Mathlib.Data.List.Chain
import TuiTemplate.Proofs.Template.Location

set_option autoImplicit false

namespace TuiTemplate

namespace Line

/-- How deep the line after a line may be indented: one step deeper than a declaration, and as deep
as any other line. -/
def room (line : Line) : Nat :=
  if isDeclaration line.text then line.indent + indentStep else line.indent

/-- Whether a line is indented by whole steps, and no deeper than there is room. -/
def FitsIn (room : Nat) (line : Line) : Prop := line.indent % indentStep = 0 ∧ line.indent ≤ room

def Follows (previous line : Line) : Prop := line.FitsIn previous.room

theorem room_of_declares {line : Line} (declares : isDeclaration line.text = true) :
    line.room = line.indent + indentStep := if_pos declares

theorem room_of_sets {line : Line} (sets : isAttribute line.text = true) :
    line.room = line.indent :=
  if_neg (ne_true_of_eq_false (isDeclaration_eq_false_of_isAttribute sets))

theorem indent_le_room (line : Line) : line.indent ≤ line.room := by
  rw [room]
  split <;> omega

end Line

section chain

variable {α : Type}

theorem getLastD_append (first : α) (front back : List α) :
    (front ++ back).getLastD first = back.getLastD (front.getLastD first) := by
  simp only [List.getLastD_eq_getLast?, List.getLast?_append, Option.getD_or]

/-- Two chains are one if the second begins with the last item of the first. -/
theorem isChain_cons_append {R : α → α → Prop} {first : α} {front back : List α}
    (frontChain : (first :: front).IsChain R)
    (backChain : (front.getLastD first :: back).IsChain R) :
    (first :: (front ++ back)).IsChain R := by
  refine frontChain.append backChain.tail ?_
  intro last isLast next isNext
  rw [List.getLast?_cons, ← List.getLastD_eq_getLast?] at isLast
  cases isLast
  exact backChain.rel_head? isNext

end chain

def TemplateFault.isIndentation : TemplateFault → Bool
  | .indentation _ => true
  | _ => false

/-- Whether an error about the indentation, if that is the outcome, is about the first of the lines
that were left, which has less room than it takes. -/
def Misfits (room : Nat) (left : List Line) (outcome : Except CompileError Node) : Prop :=
  ∀ error expected, outcome = .error (.malformed error) → error.fault = .indentation expected →
    ∃ line, left.head? = some line ∧ ¬ line.FitsIn room ∧
      error = ⟨some line.number, some line.raw, .indentation room⟩

section misfits

variable {room : Nat} {left : List Line}

theorem misfits_ok (tree : Node) : Misfits room left (.ok tree) := by
  intro error expected failed
  cases failed

theorem misfits_factory (fault : Fault) : Misfits room left (.error (.factory fault)) := by
  intro error expected failed
  cases failed

theorem misfits_of_fault {error : TemplateError} (other : error.fault.isIndentation = false) :
    Misfits room left (.error (.malformed error)) := by
  intro same expected failed fault
  cases failed
  rw [fault] at other
  cases other

theorem misfits_of_unresolved {registry : Registry} {kind : String} {number : Option Int}
    {reason : ResolveError} (unknown : registry.resolve kind number = .error reason) :
    Misfits room left (.error (.ofResolve reason)) := by
  rcases Registry.resolve_eq_error unknown with rfl | ⟨_, fault, _, _, rfl⟩
  · exact misfits_of_fault rfl
  · exact misfits_factory fault

theorem misfits_line {line : Line} {rest : List Line} (misfit : ¬ line.FitsIn room) :
    Misfits room (line :: rest) (.error (line.fault (.indentation room))) := by
  intro error expected failed fault
  cases failed
  exact ⟨line, rfl, misfit, rfl⟩

end misfits

/-- Lines that were taken after a line, each of them fitting behind the one before. If reading
stopped at the indentation of the next, that line does not fit behind the last. -/
structure InPlace (previous : Line) (taken left : List Line) (outcome : Except CompileError Node) :
    Prop where
  chain : (previous :: taken).IsChain Line.Follows
  misfits : Misfits (taken.getLastD previous).room left outcome

namespace InPlace

variable {previous line : Line} {nested taken left : List Line}
  {before outcome : Except CompileError Node}

theorem nil (misfits : Misfits previous.room left outcome) : InPlace previous [] left outcome :=
  ⟨.singleton previous, misfits⟩

theorem cons (follows : previous.Follows line) (inPlace : InPlace line taken left outcome) :
    InPlace previous (line :: taken) left outcome := by
  refine ⟨.cons_cons follows inPlace.chain, ?_⟩
  rw [List.getLastD_cons]
  exact inPlace.misfits

theorem append (first : InPlace previous nested (taken ++ left) before)
    (second : InPlace (nested.getLastD previous) taken left outcome) :
    InPlace previous (nested ++ taken) left outcome := by
  refine ⟨isChain_cons_append first.chain second.chain, ?_⟩
  rw [getLastD_append]
  exact second.misfits

/-- Behind lines that are all indented there is room for one more like them. -/
theorem le_room {depth : Nat} (deep : ∀ line ∈ taken, depth ≤ line.indent)
    (start : depth ≤ previous.room) : depth ≤ (taken.getLastD previous).room := by
  cases last : taken.getLast? with
  | none =>
      rw [List.getLastD_eq_getLast?, last]
      exact start
  | some line =>
      rw [List.getLastD_eq_getLast?, last]
      exact Nat.le_trans (deep line (List.mem_of_getLast? last)) line.indent_le_room

end InPlace

/-- Whether a block at some indent may begin behind a line: there is just room for it, or more, but
then the next line is one that the block of a child left. -/
def Opens (indent : Nat) (previous : Line) (lines : List Line) : Prop :=
  previous.room = indent ∨ indent ≤ previous.room ∧ Closes (indent + indentStep) lines

namespace Opens

variable {indent : Nat} {previous line : Line} {rest : List Line}

theorem follows (opens : Opens indent previous (line :: rest)) (aligned : indent % indentStep = 0)
    (level : line.indent = indent) : previous.Follows line := by
  refine ⟨by rw [level, aligned], ?_⟩
  rw [level]
  rcases opens with same | ⟨more, -⟩
  · exact Nat.le_of_eq same.symm
  · exact more

theorem block (level : line.indent = indent) (declares : isDeclaration line.text = true) :
    Opens (indent + indentStep) line rest :=
  .inl (by rw [Line.room_of_declares declares, level])

theorem behind_setting (level : line.indent = indent) (sets : isAttribute line.text = true) :
    Opens indent line rest :=
  .inl (by rw [Line.room_of_sets sets, level])

theorem behind_child {nested : List Line} (level : line.indent = indent)
    (declares : isDeclaration line.text = true)
    (block : Block (indent + indentStep) nested rest) :
    Opens indent (nested.getLastD line) rest := by
  have room : indent + indentStep ≤ line.room := by
    rw [Line.room_of_declares declares, level]
  have more := InPlace.le_room block.deep room
  exact .inr ⟨Nat.le_trans (Nat.le_add_right _ _) more, block.closes⟩

/-- What a child left fits the block, so a line that does not stands right at its beginning. -/
theorem room_eq (opens : Opens indent previous (line :: rest)) (aligned : indent % indentStep = 0)
    (misfit : ¬ line.FitsIn indent) : previous.room = indent := by
  rcases opens with same | ⟨-, closes⟩
  · exact same
  · obtain ⟨shallower, onStep⟩ := closes line rfl
    refine absurd ⟨onStep, ?_⟩ misfit
    simp only [indentStep] at *
    omega

theorem stops (opens : Opens indent previous (line :: rest)) (aligned : indent % indentStep = 0)
    (misfit : ¬ line.FitsIn indent) :
    InPlace previous [] (line :: rest) (.error (line.fault (.indentation indent))) := by
  apply InPlace.nil
  rw [opens.room_eq aligned misfit]
  exact misfits_line misfit

end Opens

/-- A block takes lines that each fit behind the one before, and stops at one that does not. -/
theorem Reads.inPlace {registry : Registry} {parent : Node} {indent : Nat} {sawChild : Bool}
    {lines left : List Line} {outcome : Except CompileError Node}
    (reads : Reads registry parent indent sawChild lines outcome left)
    (aligned : indent % indentStep = 0) {previous : Line} (opens : Opens indent previous lines) :
    ∃ taken, lines = taken ++ left ∧ InPlace previous taken left outcome := by
  induction reads generalizing previous with
  | finish parent indent sawChild => exact ⟨[], rfl, .nil (misfits_ok parent)⟩
  | dedent shallower onStep => exact ⟨[], rfl, .nil (misfits_ok _)⟩
  | @offStep parent indent sawChild line rest shallower unaligned =>
      exact ⟨[], rfl, opens.stops aligned fun fits => unaligned fits.1⟩
  | @tooDeep parent indent sawChild line rest deeper =>
      exact ⟨[], rfl, opens.stops aligned fun fits => Nat.not_le_of_gt deeper fits.2⟩
  | @unresolved parent indent sawChild line rest reason level declares unknown =>
      exact ⟨[line], rfl,
        .cons (opens.follows aligned level) (.nil (misfits_of_unresolved unknown))⟩
  | @brokenChild parent node indent sawChild line rest left reason level declares resolved inner
      innerIh =>
      obtain ⟨nested, rfl, inPlace⟩ :=
        innerIh (by rw [Nat.add_mod_right, aligned]) (.block level declares)
      exact ⟨line :: nested, rfl, inPlace.cons (opens.follows aligned level)⟩
  | @refusedChild parent node child indent sawChild line rest left reason level declares resolved
      inner refused innerIh =>
      obtain ⟨nested, rfl, inPlace⟩ :=
        innerIh (by rw [Nat.add_mod_right, aligned]) (.block level declares)
      obtain ⟨-, -, underLeaf⟩ := Node.acceptChild_eq_error refused
      have misfits : Misfits (nested.getLastD line).room left (.error (.malformed reason)) :=
        misfits_of_fault (by rw [underLeaf]; rfl)
      exact ⟨line :: nested, rfl, .cons (opens.follows aligned level) ⟨inPlace.chain, misfits⟩⟩
  | @child parent node child grown indent sawChild line rest left final outcome level declares
      resolved inner accepted later innerIh laterIh =>
      have below : (indent + indentStep) % indentStep = 0 := by rw [Nat.add_mod_right, aligned]
      obtain ⟨nested, rfl, inPlace⟩ := innerIh below (.block level declares)
      obtain ⟨same, spelled, block⟩ := inner.block below rfl
      obtain rfl := List.append_cancel_right spelled
      obtain ⟨taken, rfl, after⟩ := laterIh aligned (.behind_child level declares block)
      refine ⟨line :: (nested ++ taken), by simp, ?_⟩
      exact .cons (opens.follows aligned level) (inPlace.append after)
  | @lateSetting parent indent line rest level sets =>
      exact ⟨[line], rfl, .cons (opens.follows aligned level) (.nil (misfits_of_fault rfl))⟩
  | @refusedSetting parent indent line rest reason level sets refused =>
      refine ⟨[line], rfl, .cons (opens.follows aligned level) (.nil (misfits_of_fault ?_))⟩
      obtain ⟨-, -, unknown | ⟨allowed, invalid⟩⟩ := Node.acceptAttribute_eq_error refused
      · rw [unknown]
        rfl
      · rw [invalid]
        rfl
  | @setting parent grown indent line rest final outcome level sets accepted later laterIh =>
      obtain ⟨taken, rfl, inPlace⟩ := laterIh aligned (.behind_setting level sets)
      exact ⟨line :: taken, rfl, inPlace.cons (opens.follows aligned level)⟩
  | @stray parent indent sawChild line rest level noDeclaration noAttribute =>
      exact ⟨[line], rfl, .cons (opens.follows aligned level) (.nil (misfits_of_fault rfl))⟩

/-- A document takes no line, or a first one that is not indented and lines that fit behind it. -/
theorem ReadsDocument.inPlace {registry : Registry} {lines left : List Line}
    {outcome : Except CompileError Node} (reads : ReadsDocument registry lines outcome left) :
    (lines = left ∧ Misfits 0 left outcome) ∨
      ∃ first taken, lines = first :: (taken ++ left) ∧ first.FitsIn 0 ∧
        InPlace first taken left outcome := by
  have fits {line : Line} (level : line.indent = 0) : line.FitsIn 0 :=
    ⟨by rw [level]; rfl, Nat.le_of_eq level⟩
  cases reads with
  | noLine => exact .inl ⟨rfl, misfits_of_fault rfl⟩
  | @indented line rest deeper =>
      have misfit : ¬ line.FitsIn 0 := fun fits => deeper (Nat.le_zero.mp fits.2)
      exact .inl ⟨rfl, misfits_line misfit⟩
  | @undeclared line rest level noDeclaration =>
      exact .inr ⟨line, [], rfl, fits level, .nil (misfits_of_fault rfl)⟩
  | @unresolved line rest reason level declares unknown =>
      exact .inr ⟨line, [], rfl, fits level, .nil (misfits_of_unresolved unknown)⟩
  | @notContainer line rest node level declares resolved refused =>
      exact .inr ⟨line, [], rfl, fits level, .nil (misfits_of_fault rfl)⟩
  | @brokenRoot line rest left node reason level declares resolved container block =>
      obtain ⟨taken, rfl, inPlace⟩ := block.inPlace rfl (.block level declares)
      exact .inr ⟨line, taken, rfl, fits level, inPlace⟩
  | @root line rest left node root level declares resolved container block =>
      obtain ⟨taken, rfl, inPlace⟩ := block.inPlace rfl (.block level declares)
      refine .inr ⟨line, taken, rfl, fits level, inPlace.chain, ?_⟩
      rcases left with _ | ⟨next, after⟩
      · exact misfits_ok root
      · rw [afterRoot]
        split <;> exact misfits_of_fault rfl

/-- How deep the line at an index may be indented, as the line before it tells. The first line is
not indented. -/
def roomAt (lines : List Line) : Nat → Nat
  | 0 => 0
  | index + 1 => (lines[index]?.map Line.room).getD 0

namespace InPlace

variable {first : Line} {taken left : List Line} {outcome : Except CompileError Node}

theorem getElem?_taken (first : Line) (taken left : List Line) {index : Nat}
    (inside : index < (first :: taken).length) :
    (first :: (taken ++ left))[index]? = some (first :: taken)[index] := by
  rw [← List.cons_append, List.getElem?_append_left inside, List.getElem?_eq_getElem inside]

theorem fitsIn_roomAt (inPlace : InPlace first taken left outcome) (starts : first.FitsIn 0)
    {index : Nat} (inside : index < (first :: taken).length) :
    ∃ line, (first :: (taken ++ left))[index]? = some line ∧
      line.FitsIn (roomAt (first :: (taken ++ left)) index) := by
  refine ⟨_, getElem?_taken first taken left inside, ?_⟩
  cases index with
  | zero => exact starts
  | succ index =>
      rw [roomAt, getElem?_taken first taken left (by omega), Option.map_some, Option.getD_some]
      exact inPlace.chain.getElem index inside

theorem roomAt_length (first : Line) (taken left : List Line) :
    roomAt (first :: (taken ++ left)) (taken.length + 1) = (taken.getLastD first).room := by
  have last : (first :: taken)[taken.length]? = some (taken.getLastD first) := by
    rw [List.getLastD_eq_getLast?, ← List.getLast?_cons, List.getLast?_eq_getElem?]
    rfl
  rw [roomAt, ← List.cons_append, List.getElem?_append_left (by simp), last, Option.map_some,
    Option.getD_some]

end InPlace

/-- The lines of a document up to the one that is next fit where they stand. -/
theorem ReadsDocument.fitsIn_roomAt {registry : Registry} {lines left : List Line}
    {outcome : Except CompileError Node} (reads : ReadsDocument registry lines outcome left) :
    ∃ taken, lines = taken ++ left ∧
      (∀ index < taken.length, ∃ line, lines[index]? = some line ∧
        line.FitsIn (roomAt lines index)) ∧
      Misfits (roomAt lines taken.length) left outcome := by
  rcases reads.inPlace with ⟨rfl, misfits⟩ | ⟨first, taken, rfl, starts, inPlace⟩
  · exact ⟨[], rfl, fun index impossible => absurd impossible (Nat.not_lt_zero index), misfits⟩
  · refine ⟨first :: taken, rfl, fun index inside => inPlace.fitsIn_roomAt starts inside, ?_⟩
    rw [List.length_cons, InPlace.roomAt_length]
    exact inPlace.misfits

/-- However deep the blocks are nested, whether a line is indented well is told by the line before
it. Lines that are taken are, and the line at which reading stops for its indentation is not. -/
theorem parse_fitsIn_roomAt (registry : Registry) (source : String) :
    (∀ index < (parse registry (scan source)).position, ∃ line,
      (scan source)[index]? = some line ∧ Line.FitsIn (roomAt (scan source) index) line) ∧
    (∀ tree, compile registry source = .ok tree → ∀ index line,
      (scan source)[index]? = some line → Line.FitsIn (roomAt (scan source) index) line) ∧
    (∀ error expected, compile registry source = .error (.malformed error) →
      error.fault = .indentation expected → ∃ line,
        (scan source)[(parse registry (scan source)).position]? = some line ∧
        ¬ Line.FitsIn (roomAt (scan source) (parse registry (scan source)).position) line ∧
        error = ⟨some line.number, some line.raw,
          .indentation (roomAt (scan source) (parse registry (scan source)).position)⟩) := by
  have reads := readsDocument_parse registry (scan source)
  obtain ⟨taken, whole, fits, misfits⟩ := reads.fitsIn_roomAt
  obtain ⟨before, spelled, position⟩ := reads.exists_taken
  obtain rfl := List.append_cancel_right (whole.symm.trans spelled)
  rw [position] at fits misfits
  refine ⟨fits, ?_, ?_⟩
  · intro tree compiled index line here
    obtain ⟨inside, -⟩ := List.getElem?_eq_some_iff.mp here
    rw [← position_of_parse_eq_ok compiled] at inside
    obtain ⟨same, there, fit⟩ := fits index inside
    rw [here] at there
    cases there
    exact fit
  · intro error expected failed fault
    obtain ⟨line, next, misfit, same⟩ := misfits error expected failed fault
    refine ⟨line, ?_, misfit, same⟩
    rw [← position, whole, List.getElem?_append_right (Nat.le_refl _), Nat.sub_self,
      ← List.head?_eq_getElem?]
    exact next

def deepText : String :=
  "Layout:\n    Layout:\n        direction: vertical\n            Paragraph:"

/-- An attribute opens no block: the line below it has the room that the attribute has. -/
theorem parse_fitsIn_roomAt_deep :
    compile .builtin deepText =
        .error (.malformed ⟨some 4, some "            Paragraph:", .indentation 8⟩) ∧
      (∀ index < 3, ∃ line, (scan deepText)[index]? = some line ∧
        Line.FitsIn (roomAt (scan deepText) index) line) ∧
      roomAt (scan deepText) 3 = 8 ∧
      ∃ line, (scan deepText)[3]? = some line ∧ ¬ Line.FitsIn 8 line := by
  have lines : scan deepText =
      [⟨"Layout:", 0, 1, "Layout:"⟩, ⟨"Layout:", 4, 2, "    Layout:"⟩,
       ⟨"direction: vertical", 8, 3, "        direction: vertical"⟩,
       ⟨"Paragraph:", 12, 4, "            Paragraph:"⟩] := by
    decide +kernel
  have inner : Reads .builtin layoutWidget 8 false
      [⟨"direction: vertical", 8, 3, "        direction: vertical"⟩,
       ⟨"Paragraph:", 12, 4, "            Paragraph:"⟩]
      (.error (.malformed ⟨some 4, some "            Paragraph:", .indentation 8⟩))
      [⟨"Paragraph:", 12, 4, "            Paragraph:"⟩] :=
    .setting rfl (by decide) rfl (.tooDeep (by decide))
  have reads : ReadsDocument .builtin
      [⟨"Layout:", 0, 1, "Layout:"⟩, ⟨"Layout:", 4, 2, "    Layout:"⟩,
       ⟨"direction: vertical", 8, 3, "        direction: vertical"⟩,
       ⟨"Paragraph:", 12, 4, "            Paragraph:"⟩] _ _ :=
    .brokenRoot rfl (by decide) rfl rfl (.brokenChild rfl (by decide) rfl inner)
  obtain ⟨outcome, left⟩ := parse_eq_of_readsDocument reads
  have failed : compile .builtin deepText =
      .error (.malformed ⟨some 4, some "            Paragraph:", .indentation 8⟩) := by
    rw [compile, lines, outcome]
  have position : (parse .builtin (scan deepText)).position = 3 := by
    rw [lines, Progress.position, left]
    rfl
  obtain ⟨fits, -, misfits⟩ := parse_fitsIn_roomAt .builtin deepText
  obtain ⟨line, here, misfit, told⟩ := misfits _ 8 failed rfl
  rw [position] at fits here misfit told
  have room : roomAt (scan deepText) 3 = 8 := by
    rw [lines]
    rfl
  rw [room] at misfit
  exact ⟨failed, fits, room, line, here, misfit⟩

end TuiTemplate
