import TuiTemplate.Proofs.Template.Outcome
import TuiTemplate.Proofs.Widget.Renamed

set_option autoImplicit false

namespace TuiTemplate

/-- How the kinds, the line numbers and the quoted texts of one template correspond to those of
another. Every text that a fault quotes is a line, a kind, a declaration or an attribute. -/
structure Correspondence where
  rename : String → String
  number : Nat → Nat → Prop
  quote : String → String → Prop
  quote_refl : ∀ text, quote text text
  quote_kind : ∀ kind, quote kind (rename kind)
  quote_opening : ∀ kind, quote (kind ++ ":") (rename kind ++ ":")

def Correspondence.renumbering (number : Nat → Nat → Prop) : Correspondence where
  rename := id
  number := number
  quote := Eq
  quote_refl _ := rfl
  quote_kind _ := rfl
  quote_opening _ := rfl

/-- Whether two lines are indented alike and either declare corresponding kinds or have the same
text. -/
structure Line.Matches (c : Correspondence) (line other : Line) : Prop where
  indent : other.indent = line.indent
  number : c.number line.number other.number
  raw : c.quote line.raw other.raw
  declares : isDeclaration other.text = isDeclaration line.text
  kind : isDeclaration line.text = true →
    declaredKind other.text = c.rename (declaredKind line.text)
  text : isDeclaration line.text = false → other.text = line.text

/-- Whether two errors tell the same, but for kinds, line numbers and quoted texts that
correspond. -/
inductive CompileError.Matches (c : Correspondence) : CompileError → CompileError → Prop where
  | noRoot : Matches c (.malformed .noRoot) (.malformed .noRoot)
  | located {number otherNumber : Nat} {text otherText : String} (fault : TemplateFault)
      (moved : c.number number otherNumber) (quoted : c.quote text otherText) :
      Matches c (.malformed ⟨some (number : Int), some text, fault⟩)
        (.malformed ⟨some (otherNumber : Int), some otherText, fault.rename c.rename⟩)
  | factory (fault : Fault) : Matches c (.factory fault) (.factory fault)

inductive Correspondence.Outcome (c : Correspondence) (registry : Registry) :
    Except CompileError Node → Except CompileError Node → Prop where
  | tree {n other : Node} (renamed : n.Renamed registry c.rename other) :
      Outcome c registry (.ok n) (.ok other)
  | error {reason otherReason : CompileError} (same : reason.Matches c otherReason) :
      Outcome c registry (.error reason) (.error otherReason)

/-- Where the numbers are the same too, nothing differs. -/
theorem Correspondence.Outcome.eq_of_same_numbers {registry : Registry}
    {outcome other : Except CompileError Node}
    (corresponds : (renumbering Eq).Outcome registry outcome other) : other = outcome := by
  cases corresponds with
  | tree renamed => rw [renamed.eq_of_id]
  | error same =>
      cases same with
      | noRoot => rfl
      | factory fault => rfl
      | located fault moved quoted =>
          obtain rfl : _ = _ := moved
          obtain rfl : _ = _ := quoted
          have kept : fault.rename (renumbering Eq).rename = fault := fault.rename_id
          rw [kept]

namespace Registry

/-- Whether what one registry has for a kind another has for another kind: the same factory and
the same role, or nothing. -/
def Agrees (registry other : Registry) (kind otherKind : String) : Prop :=
  (other.get? otherKind).map (fun registration => (registration.factory, registration.container)) =
    (registry.get? kind).map fun registration => (registration.factory, registration.container)

namespace Agrees

variable {registry other : Registry} {kind otherKind : String}

theorem exists_of_get? (agrees : registry.Agrees other kind otherKind)
    {registration : Registration} (found : registry.get? kind = some registration) :
    ∃ otherRegistration, other.get? otherKind = some otherRegistration ∧
      otherRegistration.factory = registration.factory ∧
      otherRegistration.container = registration.container := by
  rw [Agrees, found, Option.map_some, Option.map_eq_some_iff] at agrees
  obtain ⟨otherRegistration, otherFound, same⟩ := agrees
  rw [Prod.mk.injEq] at same
  exact ⟨otherRegistration, otherFound, same⟩

theorem get?_eq_none (agrees : registry.Agrees other kind otherKind)
    (absent : registry.get? kind = none) : other.get? otherKind = none := by
  rwa [Agrees, absent, Option.map_none, Option.map_eq_none_iff] at agrees

theorem makes (agrees : registry.Agrees other kind otherKind) {made : Node}
    (known : registry.Makes kind made) : other.Makes otherKind made := by
  obtain ⟨registration, found, built⟩ := known
  obtain ⟨otherRegistration, otherFound, factory, -⟩ := agrees.exists_of_get? found
  exact ⟨otherRegistration, otherFound, factory ▸ built⟩

theorem isContainer_eq (agrees : registry.Agrees other kind otherKind) :
    other.isContainer otherKind = registry.isContainer kind := by
  cases found : registry.get? kind with
  | none => simp only [isContainer, found, agrees.get?_eq_none found]
  | some registration =>
      obtain ⟨otherRegistration, otherFound, -, role⟩ := agrees.exists_of_get? found
      simp only [isContainer, found, otherFound, role]

variable {c : Correspondence} (agrees : registry.Agrees other kind (c.rename kind))

include agrees

theorem resolve {line : Option Int} {node : Node}
    (resolved : registry.resolve kind line = .ok node) (later : Option Int) :
    ∃ otherNode, other.resolve (c.rename kind) later = .ok otherNode ∧
      node.Renamed registry c.rename otherNode := by
  obtain ⟨made, known, rfl⟩ := resolve_eq_ok_iff.mp resolved
  exact ⟨_, resolve_eq_ok_iff.mpr ⟨made, agrees.makes known, rfl⟩, .fresh known⟩

theorem resolve_error {number otherNumber : Nat} {reason : ResolveError}
    (failed : registry.resolve kind (some (number : Int)) = .error reason)
    (moved : c.number number otherNumber) :
    ∃ otherReason, other.resolve (c.rename kind) (some (otherNumber : Int)) = .error otherReason ∧
      (CompileError.ofResolve reason).Matches c (.ofResolve otherReason) := by
  cases found : registry.get? kind with
  | none =>
      simp only [Registry.resolve, found] at failed
      cases failed
      refine ⟨.unknown ⟨_, _, .unknownKind (c.rename kind)⟩, ?_,
        .located (.unknownKind kind) moved (c.quote_kind kind)⟩
      simp only [Registry.resolve, agrees.get?_eq_none found]
  | some registration =>
      obtain ⟨otherRegistration, otherFound, factory, -⟩ := agrees.exists_of_get? found
      simp only [Registry.resolve, found] at failed
      cases built : registration.factory.build with
      | ok made =>
          rw [built] at failed
          cases failed
      | error fault =>
          rw [built] at failed
          cases failed
          refine ⟨.factory fault, ?_, .factory fault⟩
          simp only [Registry.resolve, otherFound, factory, built]

end Agrees

end Registry

namespace Line.Matches

variable {c : Correspondence} {line otherLine : Line} (same : line.Matches c otherLine)

include same

theorem fault (fault : TemplateFault) :
    (line.fault fault).Matches c (otherLine.fault (fault.rename c.rename)) :=
  .located fault same.number same.raw

theorem isAttribute_eq : isAttribute otherLine.text = isAttribute line.text := by
  cases declares : isDeclaration line.text with
  | false => rw [same.text declares]
  | true => simp only [isAttribute, same.declares, declares, Bool.not_true, Bool.and_false]

section declares

variable {registry other : Registry} (declares : isDeclaration line.text = true)
  (agrees : registry.Agrees other (declaredKind line.text) (c.rename (declaredKind line.text)))

include declares agrees

theorem resolve {node : Node}
    (resolved : registry.resolve (declaredKind line.text) (some line.number) = .ok node) :
    ∃ otherNode,
      other.resolve (declaredKind otherLine.text) (some otherLine.number) = .ok otherNode ∧
        node.Renamed registry c.rename otherNode := by
  rw [same.kind declares]
  exact agrees.resolve resolved _

theorem resolve_error {reason : ResolveError}
    (failed : registry.resolve (declaredKind line.text) (some line.number) = .error reason) :
    ∃ otherReason,
      other.resolve (declaredKind otherLine.text) (some otherLine.number) = .error otherReason ∧
        (CompileError.ofResolve reason).Matches c (.ofResolve otherReason) := by
  rw [same.kind declares]
  exact agrees.resolve_error failed same.number

end declares

variable {registry : Registry} {parent otherParent : Node}
  (renamed : parent.Renamed registry c.rename otherParent)

include renamed

theorem set (sets : isAttribute line.text = true) {grown : Node}
    (accepted : parent.acceptAttribute (attributeParts line.text).1 (attributeParts line.text).2
      (some line.number) = .ok grown) :
    ∃ otherGrown,
      otherParent.acceptAttribute (attributeParts otherLine.text).1
          (attributeParts otherLine.text).2 (some otherLine.number) = .ok otherGrown ∧
        grown.Renamed registry c.rename otherGrown := by
  rw [same.text (isDeclaration_eq_false_of_isAttribute sets)]
  exact renamed.set accepted _

theorem set_refused (sets : isAttribute line.text = true) {reason : TemplateError}
    (refused : parent.acceptAttribute (attributeParts line.text).1 (attributeParts line.text).2
      (some line.number) = .error reason) :
    ∃ otherReason,
      otherParent.acceptAttribute (attributeParts otherLine.text).1
          (attributeParts otherLine.text).2 (some otherLine.number) = .error otherReason ∧
        (CompileError.malformed reason).Matches c (.malformed otherReason) := by
  rw [same.text (isDeclaration_eq_false_of_isAttribute sets)]
  obtain ⟨number, text, -⟩ := Node.acceptAttribute_eq_error refused
  refine ⟨_, renamed.set_refused refused (some otherLine.number), ?_⟩
  obtain ⟨_, _, fault⟩ := reason
  cases number
  cases text
  exact .located fault same.number (c.quote_refl _)

theorem attach_refused {child otherChild : Node} {reason : TemplateError}
    (childRenamed : child.Renamed registry c.rename otherChild)
    (refused : parent.acceptChild child (some line.number) = .error reason) :
    ∃ otherReason,
      otherParent.acceptChild otherChild (some otherLine.number) = .error otherReason ∧
        (CompileError.malformed reason).Matches c (.malformed otherReason) := by
  obtain ⟨number, text, -⟩ := Node.acceptChild_eq_error refused
  refine ⟨_, renamed.attach_refused childRenamed refused (some otherLine.number), ?_⟩
  obtain ⟨_, _, fault⟩ := reason
  cases number
  cases text
  exact .located fault same.number (c.quote_opening child.kind)

end Line.Matches

def Correspondence.Agree (c : Correspondence) (registry other : Registry) (lines : List Line) :
    Prop :=
  ∀ line ∈ lines, isDeclaration line.text = true →
    registry.Agrees other (declaredKind line.text) (c.rename (declaredKind line.text))

theorem Correspondence.Agree.of_subset {c : Correspondence} {registry other : Registry}
    {lines rest : List Line} (agree : c.Agree registry other lines) (inside : rest ⊆ lines) :
    c.Agree registry other rest :=
  fun line member => agree line (inside member)

theorem Correspondence.Agree.of_cons {c : Correspondence} {registry other : Registry} {line : Line}
    {rest : List Line} (agree : c.Agree registry other (line :: rest)) :
    c.Agree registry other rest :=
  agree.of_subset fun _ => List.mem_cons_of_mem line

/-- A block of corresponding lines comes to a corresponding outcome and leaves corresponding
lines. -/
theorem Reads.corresponds {c : Correspondence} {registry other : Registry}
    {parent otherParent : Node} {indent : Nat} {sawChild : Bool} {lines others left : List Line}
    {outcome : Except CompileError Node}
    (reads : Reads registry parent indent sawChild lines outcome left)
    (agree : c.Agree registry other lines) (same : List.Forall₂ (Line.Matches c) lines others)
    (renamed : parent.Renamed registry c.rename otherParent) :
    ∃ otherOutcome otherLeft,
      Reads other otherParent indent sawChild others otherOutcome otherLeft ∧
        c.Outcome registry outcome otherOutcome ∧
        List.Forall₂ (Line.Matches c) left otherLeft := by
  -- Each rule for the first block has the same rule for the other. Only the rules that read a
  -- nested block go two ways, and how that block ended in the one text it ended in the other.
  induction reads generalizing others otherParent with
  | finish parent indent sawChild =>
      cases same
      exact ⟨_, _, .finish otherParent indent sawChild, .tree renamed, .nil⟩
  | dedent shallower aligned =>
      obtain _ | ⟨here, later⟩ := same
      rw [← here.indent] at shallower aligned
      exact ⟨_, _, .dedent shallower aligned, .tree renamed, .cons here later⟩
  | offStep shallower unaligned =>
      obtain _ | ⟨here, later⟩ := same
      rw [← here.indent] at shallower unaligned
      exact ⟨_, _, .offStep shallower unaligned, .error (here.fault _), .cons here later⟩
  | tooDeep deeper =>
      obtain _ | ⟨here, later⟩ := same
      rw [← here.indent] at deeper
      exact ⟨_, _, .tooDeep deeper, .error (here.fault _), .cons here later⟩
  | unresolved level declares failed =>
      obtain _ | ⟨here, later⟩ := same
      obtain ⟨otherReason, otherFailed, matched⟩ :=
        here.resolve_error declares (agree _ List.mem_cons_self declares) failed
      exact ⟨_, _, .unresolved (here.indent.trans level) (here.declares.trans declares) otherFailed,
        .error matched, later⟩
  | brokenChild level declares resolved inner innerIh =>
      obtain _ | ⟨here, later⟩ := same
      obtain ⟨otherNode, otherResolved, nodeRenamed⟩ :=
        here.resolve declares (agree _ List.mem_cons_self declares) resolved
      obtain ⟨_, otherLeft, otherInner, ⟨⟩ | ⟨matched⟩, leftSame⟩ :=
        innerIh agree.of_cons later nodeRenamed
      exact ⟨_, _, .brokenChild (here.indent.trans level) (here.declares.trans declares)
        otherResolved otherInner, .error matched, leftSame⟩
  | refusedChild level declares resolved inner refused innerIh =>
      obtain _ | ⟨here, later⟩ := same
      obtain ⟨otherNode, otherResolved, nodeRenamed⟩ :=
        here.resolve declares (agree _ List.mem_cons_self declares) resolved
      obtain ⟨_, otherLeft, otherInner, ⟨childRenamed⟩ | ⟨⟩, leftSame⟩ :=
        innerIh agree.of_cons later nodeRenamed
      obtain ⟨otherReason, otherRefused, matched⟩ :=
        here.attach_refused renamed childRenamed refused
      exact ⟨_, _, .refusedChild (here.indent.trans level) (here.declares.trans declares)
        otherResolved otherInner otherRefused, .error matched, leftSame⟩
  | child level declares resolved inner accepted later innerIh laterIh =>
      obtain _ | ⟨here, below⟩ := same
      obtain ⟨otherNode, otherResolved, nodeRenamed⟩ :=
        here.resolve declares (agree _ List.mem_cons_self declares) resolved
      obtain ⟨_, otherLeft, otherInner, ⟨childRenamed⟩ | ⟨⟩, leftSame⟩ :=
        innerIh agree.of_cons below nodeRenamed
      obtain ⟨otherGrown, otherAccepted, grownRenamed⟩ := renamed.attach childRenamed accepted _
      obtain ⟨otherOutcome, otherFinal, otherLater, matched, finalSame⟩ :=
        laterIh (agree.of_cons.of_subset inner.suffix.subset) leftSame grownRenamed
      exact ⟨_, _, .child (here.indent.trans level) (here.declares.trans declares) otherResolved
        otherInner otherAccepted otherLater, matched, finalSame⟩
  | lateSetting level sets =>
      obtain _ | ⟨here, later⟩ := same
      exact ⟨_, _, .lateSetting (here.indent.trans level) (here.isAttribute_eq.trans sets),
        .error (here.fault _), later⟩
  | refusedSetting level sets refused =>
      obtain _ | ⟨here, later⟩ := same
      obtain ⟨otherReason, otherRefused, matched⟩ := here.set_refused renamed sets refused
      exact ⟨_, _, .refusedSetting (here.indent.trans level) (here.isAttribute_eq.trans sets)
        otherRefused, .error matched, later⟩
  | setting level sets accepted later laterIh =>
      obtain _ | ⟨here, below⟩ := same
      obtain ⟨otherGrown, otherAccepted, grownRenamed⟩ := here.set renamed sets accepted
      obtain ⟨otherOutcome, otherFinal, otherLater, matched, finalSame⟩ :=
        laterIh agree.of_cons below grownRenamed
      exact ⟨_, _, .setting (here.indent.trans level) (here.isAttribute_eq.trans sets)
        otherAccepted otherLater, matched, finalSame⟩
  | stray level noDeclaration noAttribute =>
      obtain _ | ⟨here, later⟩ := same
      exact ⟨_, _, .stray (here.indent.trans level) (here.declares.trans noDeclaration)
        (here.isAttribute_eq.trans noAttribute), .error (here.fault _), later⟩

theorem rootKinds_eq_map {c : Correspondence} {lines others : List Line}
    (same : List.Forall₂ (Line.Matches c) lines others) :
    rootKinds others = (rootKinds lines).map c.rename := by
  induction same with
  | nil => rfl
  | @cons line other rest otherRest here later ih =>
      simp only [rootKinds, List.map_map] at ih ⊢
      rw [List.filter_cons, List.filter_cons, here.indent, here.declares]
      split
      · next declared =>
        have declares := (Bool.and_eq_true_iff.mp declared).2
        rw [List.map_cons, List.map_cons, ih, here.kind declares]
        rfl
      · exact ih

theorem afterRoot_corresponds {c : Correspondence} {registry : Registry} {root otherRoot : Node}
    {left otherLeft : List Line} (renamed : root.Renamed registry c.rename otherRoot)
    (same : List.Forall₂ (Line.Matches c) left otherLeft) :
    c.Outcome registry (afterRoot root left) (afterRoot otherRoot otherLeft) := by
  cases same with
  | nil => exact .tree renamed
  | @cons line other rest otherRest here later =>
      have kinds : otherRoot.kind :: rootKinds (other :: otherRest) =
          (root.kind :: rootKinds (line :: rest)).map c.rename := by
        rw [List.map_cons, renamed.kind_eq, rootKinds_eq_map (.cons here later)]
      rw [afterRoot, afterRoot, here.declares, kinds]
      split
      · exact .error (here.fault (.manyRoots _))
      · exact .error (here.fault .notDeclaration)

theorem ReadsDocument.corresponds {c : Correspondence} {registry other : Registry}
    {lines others left : List Line} {outcome : Except CompileError Node}
    (reads : ReadsDocument registry lines outcome left) (agree : c.Agree registry other lines)
    (same : List.Forall₂ (Line.Matches c) lines others) :
    ∃ otherOutcome otherLeft, ReadsDocument other others otherOutcome otherLeft ∧
      c.Outcome registry outcome otherOutcome := by
  cases reads with
  | noLine =>
      cases same
      exact ⟨_, _, .noLine, .error .noRoot⟩
  | indented deeper =>
      obtain _ | ⟨here, later⟩ := same
      rw [← here.indent] at deeper
      exact ⟨_, _, .indented deeper, .error (here.fault _)⟩
  | undeclared level noDeclaration =>
      obtain _ | ⟨here, later⟩ := same
      exact ⟨_, _, .undeclared (here.indent.trans level) (here.declares.trans noDeclaration),
        .error (here.fault _)⟩
  | unresolved level declares failed =>
      obtain _ | ⟨here, later⟩ := same
      obtain ⟨otherReason, otherFailed, matched⟩ :=
        here.resolve_error declares (agree _ List.mem_cons_self declares) failed
      exact ⟨_, _, .unresolved (here.indent.trans level) (here.declares.trans declares) otherFailed,
        .error matched⟩
  | notContainer level declares resolved refused =>
      obtain _ | ⟨here, later⟩ := same
      have agrees := agree _ List.mem_cons_self declares
      obtain ⟨otherNode, otherResolved, -⟩ := here.resolve declares agrees resolved
      rw [← agrees.isContainer_eq, ← here.kind declares] at refused
      refine ⟨_, _, .notContainer (here.indent.trans level) (here.declares.trans declares)
        otherResolved refused, .error ?_⟩
      rw [here.kind declares]
      exact here.fault (.rootNotContainer _)
  | brokenRoot level declares resolved container block =>
      obtain _ | ⟨here, later⟩ := same
      have agrees := agree _ List.mem_cons_self declares
      obtain ⟨otherNode, otherResolved, nodeRenamed⟩ := here.resolve declares agrees resolved
      rw [← agrees.isContainer_eq, ← here.kind declares] at container
      obtain ⟨_, otherLeft, otherBlock, ⟨⟩ | ⟨matched⟩, -⟩ :=
        block.corresponds agree.of_cons later nodeRenamed
      exact ⟨_, _, .brokenRoot (here.indent.trans level) (here.declares.trans declares)
        otherResolved container otherBlock, .error matched⟩
  | root level declares resolved container block =>
      obtain _ | ⟨here, later⟩ := same
      have agrees := agree _ List.mem_cons_self declares
      obtain ⟨otherNode, otherResolved, nodeRenamed⟩ := here.resolve declares agrees resolved
      rw [← agrees.isContainer_eq, ← here.kind declares] at container
      obtain ⟨_, otherLeft, otherBlock, ⟨rootRenamed⟩ | ⟨⟩, leftSame⟩ :=
        block.corresponds agree.of_cons later nodeRenamed
      exact ⟨_, _, .root (here.indent.trans level) (here.declares.trans declares) otherResolved
        container otherBlock, afterRoot_corresponds rootRenamed leftSame⟩

/-- Documents of corresponding lines come to corresponding outcomes, if the registries agree on
the kinds that are declared. -/
theorem parse_corresponds {c : Correspondence} {registry other : Registry}
    {lines others : List Line} (agree : c.Agree registry other lines)
    (same : List.Forall₂ (Line.Matches c) lines others) :
    c.Outcome registry (parse registry lines).outcome (parse other others).outcome := by
  obtain ⟨otherOutcome, otherLeft, otherReads, matched⟩ :=
    (readsDocument_parse registry lines).corresponds agree same
  rwa [(parse_eq_of_readsDocument otherReads).1]

end TuiTemplate
