import TuiTemplate.Proofs.Template.Block
import TuiTemplate.Proofs.Template.Outcome

set_option autoImplicit false

namespace TuiTemplate

/-- A line by its relation to those that were taken: the first that was not, the last that was,
or a declaration among them whose block ended with them. -/
inductive Place where
  | next
  | last
  | opening

/-- The line on which a fault is found. A line that fits no open block stays unread, and every
other line is taken before it is looked at. The fault of a document without lines and that of a
line in the place of a declaration are not among these. -/
def TemplateFault.place? : TemplateFault → Option Place
  | .indentation _ | .manyRoots _ => some .next
  | .rootNotContainer _ | .unknownKind _ | .notInBlock | .lateAttribute | .unknownAttribute _ _ _
  | .invalidValue _ _ _ _ => some .last
  | .childUnderLeaf _ => some .opening
  | .noRoot _ | .notDeclaration | .other _ | .shape _ | .definition _ => none

namespace TemplateError

def Names (error : TemplateError) (lines : List Line) (index : Nat) : Prop :=
  ∃ line, lines[index]? = some line ∧ error.line = some (line.number : Int)

/-- Whether the error tells the number of a declaration whose block ended at the position: the
lines between are deeper, and the line at the position, if there is one, is not. -/
def NamesOpening (error : TemplateError) (lines : List Line) (position : Nat) : Prop :=
  ∃ opening < position, ∃ line, lines[opening]? = some line ∧ isDeclaration line.text = true ∧
    error.line = some (line.number : Int) ∧
    (∀ index, opening < index → index < position → ∀ inner, lines[index]? = some inner →
      line.indent < inner.indent) ∧
    ∀ next, lines[position]? = some next → next.indent ≤ line.indent

/-- Whether the error tells the number of the line at a place, when the lines before the position
were taken. -/
def NamesAt (error : TemplateError) (lines : List Line) (position : Nat) : Place → Prop
  | .next => error.Names lines position
  | .last => ∃ last, position = last + 1 ∧ error.Names lines last
  | .opening => error.NamesOpening lines position

/-- Whether the error is found where faults of its kind are. -/
def Placed (error : TemplateError) (lines : List Line) (position : Nat) : Prop :=
  ∃ place, error.fault.place? = some place ∧ error.NamesAt lines position place

/-- Whether the error of a document is found where it should be. A line that is no declaration is
the last that was taken if it stands for the root, and is not taken if it comes after the root. -/
def Located (error : TemplateError) (lines : List Line) (position : Nat) : Prop :=
  match error.fault with
  | .noRoot _ => lines = []
  | .notDeclaration => ∃ first, lines[0]? = some first ∧
    if isDeclaration first.text then 0 < position ∧ error.NamesAt lines position .next
    else position = 1 ∧ error.NamesAt lines position .last
  | _ => error.Placed lines position

section append

variable {error : TemplateError} {lines : List Line} {position index : Nat}

theorem Names.append (names : error.Names lines index) (front : List Line) :
    error.Names (front ++ lines) (front.length + index) := by
  obtain ⟨line, found, number⟩ := names
  refine ⟨line, ?_, number⟩
  rwa [List.getElem?_append_right (Nat.le_add_right _ _), Nat.add_sub_cancel_left]

theorem NamesOpening.append (names : error.NamesOpening lines position) (front : List Line) :
    error.NamesOpening (front ++ lines) (front.length + position) := by
  obtain ⟨opening, before, line, found, declares, number, deeper, closes⟩ := names
  have shift (index : Nat) : (front ++ lines)[front.length + index]? = lines[index]? := by
    rw [List.getElem?_append_right (Nat.le_add_right _ _), Nat.add_sub_cancel_left]
  refine ⟨front.length + opening, by omega, line, ?_, declares, number, ?_, ?_⟩
  · rwa [shift]
  · intro index after inside inner here
    obtain ⟨below, rfl⟩ : ∃ below, index = front.length + below :=
      Nat.exists_eq_add_of_le (by omega)
    rw [shift] at here
    exact deeper below (by omega) (by omega) inner here
  · rwa [shift]

/-- Lines that were taken before do not change where an error is found. -/
theorem Placed.append (placed : error.Placed lines position) (front : List Line) :
    error.Placed (front ++ lines) (front.length + position) := by
  obtain ⟨place, known, names⟩ := placed
  refine ⟨place, known, ?_⟩
  cases place with
  | next => exact names.append front
  | last =>
      obtain ⟨last, rfl, names⟩ := names
      exact ⟨_, rfl, names.append front⟩
  | opening => exact NamesOpening.append names front

end append

theorem Placed.located {error : TemplateError} {lines : List Line} {position : Nat}
    (placed : error.Placed lines position) : error.Located lines position := by
  have noSpecial : error.fault.place? ≠ none := by
    obtain ⟨place, known, -⟩ := placed
    rw [known]
    exact Option.some_ne_none place
  unfold Located
  split
  · next known => exact absurd (congrArg TemplateFault.place? known) noSpecial
  · next known => exact absurd (congrArg TemplateFault.place? known) noSpecial
  · exact placed

end TemplateError

/-- A block is closed where the lines below its declaration end. -/
theorem Block.namesOpening {line : Line} {taken left : List Line} {error : TemplateError}
    (block : Block (line.indent + indentStep) taken left)
    (aligned : line.indent % indentStep = 0) (declares : isDeclaration line.text = true)
    (names : error.line = some (line.number : Int)) :
    error.NamesOpening (line :: (taken ++ left)) (taken.length + 1) := by
  refine ⟨0, Nat.succ_pos _, line, rfl, declares, names, ?_, ?_⟩
  · rintro (_ | index) after inside inner here
    · cases after
    · rw [List.getElem?_cons_succ, List.getElem?_append_left (by omega)] at here
      have deep := block.deep inner (List.mem_of_getElem? here)
      simp only [indentStep] at deep
      omega
  · intro next here
    rw [List.getElem?_cons_succ, List.getElem?_append_right (Nat.le_refl _), Nat.sub_self,
      ← List.head?_eq_getElem?] at here
    obtain ⟨shallower, onStep⟩ := block.closes next here
    simp only [indentStep] at *
    omega

theorem Line.namesAt_last {line : Line} {error : TemplateError}
    (names : error.line = some (line.number : Int)) (rest : List Line) :
    error.NamesAt (line :: rest) 1 .last :=
  ⟨0, rfl, line, rfl, names⟩

/-- The error of a block is found on the line that stopped it, or on the declaration of the child
that a leaf refused. -/
theorem Reads.placed {registry : Registry} {parent : Node} {indent : Nat} {sawChild : Bool}
    {lines left : List Line} {outcome : Except CompileError Node}
    (reads : Reads registry parent indent sawChild lines outcome left)
    (aligned : indent % indentStep = 0) {error : TemplateError}
    (failed : outcome = .error (.malformed error)) :
    ∃ taken, lines = taken ++ left ∧ error.Placed lines taken.length := by
  induction reads with
  | finish parent indent sawChild => cases failed
  | dedent shallower onStep => cases failed
  | offStep shallower unaligned =>
      cases failed
      exact ⟨[], rfl, .next, rfl, _, rfl, rfl⟩
  | tooDeep deeper =>
      cases failed
      exact ⟨[], rfl, .next, rfl, _, rfl, rfl⟩
  | @unresolved parent indent sawChild line rest reason level declares unknown =>
      rcases Registry.resolve_eq_error unknown with rfl | ⟨_, _, _, _, rfl⟩
      · cases failed
        exact ⟨[line], rfl, .last, rfl, line.namesAt_last rfl rest⟩
      · cases failed
  | @brokenChild parent node indent sawChild line rest left reason level declares resolved inner
      innerIh =>
      obtain ⟨taken, rfl, placed⟩ := innerIh (by rw [Nat.add_mod_right, aligned]) failed
      refine ⟨line :: taken, rfl, ?_⟩
      rw [List.length_cons, Nat.add_comm]
      exact placed.append [line]
  | @refusedChild parent node child indent sawChild line rest left reason level declares resolved
      inner refused innerIh =>
      cases failed
      obtain ⟨taken, rfl, block⟩ := inner.block (by rw [Nat.add_mod_right, aligned]) rfl
      obtain ⟨number, -, fault⟩ := Node.acceptChild_eq_error refused
      rw [← level] at aligned block
      exact ⟨line :: taken, rfl, .opening, by rw [fault]; rfl,
        block.namesOpening aligned declares number⟩
  | @child parent node child grown indent sawChild line rest left final outcome level declares
      resolved inner accepted later innerIh laterIh =>
      obtain ⟨nested, rfl, -⟩ := inner.block (by rw [Nat.add_mod_right, aligned]) rfl
      obtain ⟨taken, rfl, placed⟩ := laterIh aligned failed
      refine ⟨line :: nested ++ taken, by simp, ?_⟩
      rw [List.length_append]
      exact placed.append (line :: nested)
  | @lateSetting parent indent line rest level sets =>
      cases failed
      exact ⟨[line], rfl, .last, rfl, line.namesAt_last rfl rest⟩
  | @refusedSetting parent indent line rest reason level sets refused =>
      cases failed
      obtain ⟨number, -, unknown | ⟨allowed, invalid⟩⟩ := Node.acceptAttribute_eq_error refused
      · exact ⟨[line], rfl, .last, by rw [unknown]; rfl, line.namesAt_last number rest⟩
      · exact ⟨[line], rfl, .last, by rw [invalid]; rfl, line.namesAt_last number rest⟩
  | @setting parent grown indent line rest final outcome level sets accepted later laterIh =>
      obtain ⟨taken, rfl, placed⟩ := laterIh aligned failed
      refine ⟨line :: taken, rfl, ?_⟩
      rw [List.length_cons, Nat.add_comm]
      exact placed.append [line]
  | @stray parent indent sawChild line rest level noDeclaration noAttribute =>
      cases failed
      exact ⟨[line], rfl, .last, rfl, line.namesAt_last rfl rest⟩

theorem Registry.Builds.exists_malformed {registry : Registry} (builds : registry.Builds)
    {kind : String} {line : Option Int} {reason : ResolveError}
    (failed : registry.resolve kind line = .error reason) :
    ∃ error, CompileError.ofResolve reason = .malformed error := by
  rcases Registry.resolve_eq_error failed with rfl | ⟨registration, fault, found, broken, rfl⟩
  · exact ⟨_, rfl⟩
  · obtain ⟨made, built⟩ := builds _ registration found
    rw [built] at broken
    cases broken

/-- If no factory breaks down, only the lines can stop a block. -/
theorem Reads.exists_malformed {registry : Registry} (builds : registry.Builds) {parent : Node}
    {indent : Nat} {sawChild : Bool} {lines left : List Line}
    {outcome : Except CompileError Node}
    (reads : Reads registry parent indent sawChild lines outcome left) {reason : CompileError}
    (failed : outcome = .error reason) : ∃ error, reason = .malformed error := by
  induction reads with
  | finish parent indent sawChild => cases failed
  | dedent shallower onStep => cases failed
  | unresolved level declares unknown =>
      cases failed
      exact builds.exists_malformed unknown
  | brokenChild level declares resolved inner innerIh => exact innerIh failed
  | child level declares resolved inner accepted later innerIh laterIh => exact laterIh failed
  | setting level sets accepted later laterIh => exact laterIh failed
  | _ =>
      cases failed
      exact ⟨_, rfl⟩

theorem ReadsDocument.exists_malformed {registry : Registry} (builds : registry.Builds)
    {lines left : List Line} {outcome : Except CompileError Node}
    (reads : ReadsDocument registry lines outcome left) {reason : CompileError}
    (failed : outcome = .error reason) : ∃ error, reason = .malformed error := by
  cases reads with
  | unresolved level declares unknown =>
      cases failed
      exact builds.exists_malformed unknown
  | brokenRoot level declares resolved container block => exact block.exists_malformed builds failed
  | @root line rest left node root level declares resolved container block =>
      rcases left with _ | ⟨next, after⟩
      · cases failed
      · rw [afterRoot] at failed
        split at failed <;> cases failed <;> exact ⟨_, rfl⟩
  | _ =>
      cases failed
      exact ⟨_, rfl⟩

theorem ReadsDocument.located {registry : Registry} {lines left : List Line}
    {outcome : Except CompileError Node} (reads : ReadsDocument registry lines outcome left)
    {error : TemplateError} (failed : outcome = .error (.malformed error)) :
    ∃ taken, lines = taken ++ left ∧ error.Located lines taken.length := by
  cases reads with
  | noLine =>
      cases failed
      exact ⟨[], rfl, rfl⟩
  | @indented line rest deeper =>
      cases failed
      exact ⟨[], rfl, .next, rfl, line, rfl, rfl⟩
  | @undeclared line left level noDeclaration =>
      cases failed
      refine ⟨[line], rfl, line, rfl, ?_⟩
      rw [if_neg (ne_true_of_eq_false noDeclaration)]
      exact ⟨rfl, line.namesAt_last rfl left⟩
  | @unresolved line left reason level declares unknown =>
      rcases Registry.resolve_eq_error unknown with rfl | ⟨_, _, _, _, rfl⟩
      · cases failed
        exact ⟨[line], rfl, .last, rfl, line.namesAt_last rfl left⟩
      · cases failed
  | @notContainer line left node level declares resolved refused =>
      cases failed
      exact ⟨[line], rfl, .last, rfl, line.namesAt_last rfl left⟩
  | @brokenRoot line rest left node reason level declares resolved container block =>
      obtain ⟨taken, rfl, placed⟩ := block.placed rfl failed
      refine ⟨line :: taken, rfl, ?_⟩
      rw [List.length_cons, Nat.add_comm]
      exact (placed.append [line]).located
  | @root line rest left node root level declares resolved container block =>
      obtain ⟨taken, rfl, -⟩ := block.block rfl rfl
      refine ⟨line :: taken, rfl, ?_⟩
      rcases left with _ | ⟨next, after⟩
      · cases failed
      · have names : ∀ fault, TemplateError.Names ⟨some next.number, some next.raw, fault⟩
            (line :: taken ++ next :: after) (line :: taken).length := by
          intro fault
          refine ⟨next, ?_, rfl⟩
          rw [List.getElem?_append_right (Nat.le_refl _), Nat.sub_self]
          rfl
        rw [afterRoot] at failed
        split at failed
        · cases failed
          exact ⟨.next, rfl, names _⟩
        · cases failed
          refine ⟨line, rfl, ?_⟩
          rw [if_pos declares]
          exact ⟨Nat.succ_pos _, names _⟩

/-- A template fails without lines, or at a line that its error tells: the cursor stands before or
behind that line, or where the block ends that the line opens. -/
theorem located_of_compile_eq_error {registry : Registry} (builds : registry.Builds)
    (source : String) :
    (compile registry source = .error (.malformed .noRoot) ↔ scan source = []) ∧
      ∀ reason, compile registry source = .error reason →
        ∃ error, reason = .malformed error ∧
          error.Located (scan source) (parse registry (scan source)).position := by
  have reads := readsDocument_parse registry (scan source)
  refine ⟨⟨?_, ?_⟩, ?_⟩
  · intro failed
    obtain ⟨taken, -, located⟩ := reads.located failed
    exact located
  · intro none
    rw [compile, none]
    rfl
  · intro reason failed
    obtain ⟨error, rfl⟩ := reads.exists_malformed builds failed
    obtain ⟨taken, whole, located⟩ := reads.located failed
    obtain ⟨before, spelled, position⟩ := reads.exists_taken
    rw [List.append_cancel_right (whole.symm.trans spelled), position] at located
    exact ⟨error, rfl, located⟩

def crowdedLeafText : String :=
  "Layout:\n    Paragraph:\n        Layout:\n            direction: vertical\n    Paragraph:"

def crowdedLeafLines : List Line :=
  [⟨"Layout:", 0, 1, "Layout:"⟩, ⟨"Paragraph:", 4, 2, "    Paragraph:"⟩,
   ⟨"Layout:", 8, 3, "        Layout:"⟩,
   ⟨"direction: vertical", 12, 4, "            direction: vertical"⟩,
   ⟨"Paragraph:", 4, 5, "    Paragraph:"⟩]

def crowdedLeafError : TemplateError := ⟨some 3, some "Layout:", .childUnderLeaf "Paragraph"⟩

theorem scan_crowdedLeafText : scan crowdedLeafText = crowdedLeafLines := by decide +kernel

theorem readsDocument_crowdedLeaf :
    ReadsDocument .builtin crowdedLeafLines (.error (.malformed crowdedLeafError))
      [⟨"Paragraph:", 4, 5, "    Paragraph:"⟩] :=
  have row : Reads .builtin layoutWidget 12 false
      [⟨"direction: vertical", 12, 4, "            direction: vertical"⟩,
       ⟨"Paragraph:", 4, 5, "    Paragraph:"⟩] (.ok _) _ :=
    .setting rfl (by decide) rfl (.dedent (by decide) rfl)
  have leaf : Reads .builtin paragraphWidget 8 false _ (.error (.malformed crowdedLeafError)) _ :=
    .refusedChild rfl (by decide) rfl row rfl
  .brokenRoot rfl (by decide) rfl rfl (.brokenChild rfl (by decide) rfl leaf)

/-- The error tells the line of the inner container. By then the cursor has passed its block. -/
theorem located_of_compile_eq_error_leaf :
    compile .builtin crowdedLeafText = .error (.malformed crowdedLeafError) ∧
      crowdedLeafError.Located (scan crowdedLeafText) 4 := by
  obtain ⟨outcome, left⟩ := parse_eq_of_readsDocument readsDocument_crowdedLeaf
  have failed : compile .builtin crowdedLeafText = .error (.malformed crowdedLeafError) := by
    rw [compile, scan_crowdedLeafText, outcome]
  have position : (parse .builtin (scan crowdedLeafText)).position = 4 := by
    rw [scan_crowdedLeafText, Progress.position, left]
    rfl
  obtain ⟨error, same, located⟩ :=
    (located_of_compile_eq_error Registry.builtin_builds crowdedLeafText).2 _ failed
  cases same
  rw [position] at located
  exact ⟨failed, located⟩

end TuiTemplate
