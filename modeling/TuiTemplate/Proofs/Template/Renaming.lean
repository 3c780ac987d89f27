import TuiTemplate.Proofs.Template.Correspondence
import TuiTemplate.Proofs.Template.Word
import TuiTemplate.Render.Engine

set_option autoImplicit false

namespace TuiTemplate

open Text Grammar

section drawing

variable {subs : Substitutions}

theorem Node.traceAll_congr {nodes others : List Node}
    (same : List.Forall₂ (fun n other => ∀ region, trace subs other region = trace subs n region)
      nodes others) (regions : List Region) :
    traceAll subs others regions = traceAll subs nodes regions := by
  induction same generalizing regions with
  | nil => rfl
  | cons here later ih =>
      cases regions with
      | nil => simp only [traceAll]
      | cons region regions => rw [traceAll, traceAll, here region, ih]

/-- A paragraph draws its text whatever it is called. -/
theorem Node.OfClass.trace_withKind {n : Node} (paragraph : n.OfClass paragraphWidget)
    (kind : String) (region : Region) :
    (n.withKind kind).trace subs region = n.trace subs region := by
  rw [paragraph]
  rfl

/-- A tree whose leaves are paragraphs draws the same under other names. -/
theorem Node.Renamed.trace_eq {registry : Registry} {f : String → String} {n other : Node}
    (renamed : n.Renamed registry f other)
    (paragraphs : ∀ leaf ∈ n.leaves, leaf.OfClass paragraphWidget) (region : Region) :
    other.trace subs region = n.trace subs region := by
  induction n using children_induction generalizing other region with
  | step n ih =>
      obtain @⟨_, _, made, declared, others, known, children, rfl, below⟩ := renamed
      cases n with
      | container head axis nodes =>
          obtain rfl : nodes = made.children ++ declared := children
          rw [leaves_container, List.forall_mem_flatMap] at paragraphs
          have each : ∀ child ∈ declared, ∀ {otherChild},
              child.Renamed registry f otherChild →
                ∀ region, otherChild.trace subs region = child.trace subs region := by
            intro child inside otherChild childRenamed region
            have inner := List.mem_append_right made.children inside
            exact ih child inner childRenamed (paragraphs child inner) region
          have same : List.Forall₂ (fun child otherChild => ∀ region,
              otherChild.trace subs region = child.trace subs region)
              (made.children ++ declared) (made.children ++ others) :=
            List.rel_append (List.forall₂_same.mpr fun _ _ _ => rfl)
              (((List.forall₂_and_left _ _).mpr ⟨each, below⟩).imp fun _ _ both => both.1 both.2)
          have attributes : Head.attributes { head with kind := f head.kind } = head.attributes :=
            rfl
          change trace subs (.container { head with kind := f head.kind } axis
            (made.children ++ others)) region = _
          rw [trace, trace, attributes, same.length_eq]
          cases axis head.attributes with
          | error reason => rfl
          | ok direction => exact traceAll_congr same _
      | leaf head content =>
          exact (paragraphs _ (List.mem_singleton.mpr rfl)).trace_withKind _ region
      | inert head => rfl

theorem Node.Renamed.render_eq {registry : Registry} {f : String → String} {n other : Node}
    (renamed : n.Renamed registry f other)
    (paragraphs : ∀ leaf ∈ n.leaves, leaf.OfClass paragraphWidget) {σ : Type} [DrawTarget σ]
    (target : σ) : (render other subs target).1 = (render n subs target).1 := by
  have same : other.drawOn (DrawTarget.area target) subs target =
      n.drawOn (DrawTarget.area target) subs target := by
    rw [drawOn, drawOn, renamed.trace_eq paragraphs]
  rw [render, render, same]

end drawing

def Registration.renamed (f : String → String) (registration : Registration) : Registration :=
  { registration with kind := f registration.kind }

def Registry.renamed (f : String → String) (registry : Registry) : Registry :=
  ⟨⟨registry.registrations.entries.map fun entry => (f entry.1, entry.2.renamed f)⟩⟩

theorem Registry.agrees_renamed {f : String → String} (injective : Function.Injective f)
    (registry : Registry) (kind : String) :
    registry.Agrees (registry.renamed f) kind (f kind) := by
  have found : (registry.renamed f).get? (f kind) =
      (registry.get? kind).map (Registration.renamed f) :=
    OrderedMap.get?_map injective (Registration.renamed f) registry.registrations kind
  rw [Agrees, found, Option.map_map]
  rfl

def declaration? (raw : String) : Option (Nat × String) :=
  let text := trim raw
  if isIgnored text then none
  else if isDeclaration text then some (indentationOf raw, declaredKind text)
  else none

theorem declaration?_eq_some_iff {raw kind : String} {indent : Nat} :
    declaration? raw = some (indent, kind) ↔
      isIgnored (trim raw) = false ∧ isDeclaration (trim raw) = true ∧
        indentationOf raw = indent ∧ declaredKind (trim raw) = kind := by
  simp only [declaration?, Option.ite_none_left_eq_some, Option.ite_none_right_eq_some,
    Option.some.injEq, Prod.mk.injEq, Bool.not_eq_true]

theorem isName_of_declaration? {raw kind : String} {indent : Nat} (unbroken : Unbroken raw.toList)
    (declares : declaration? raw = some (indent, kind)) : IsName kind := by
  obtain ⟨counts, declared, -, named⟩ := declaration?_eq_some_iff.mp declares
  have read : Line.ofRaw? raw 0 = some _ := Line.ofRaw?_eq_some_iff.mpr ⟨counts, rfl⟩
  exact (Line.isName_of_ofRaw? unbroken read).of_declares (declares_iff.mpr ⟨declared, named⟩)

section spelling

variable {kind gap : String} (name : IsName kind) (close : kind = "" → gap = "")
  (blankGap : ∀ c ∈ gap.toList, isBlank c = true)

include name close

theorem head?_spelled : ∀ c, (kind ++ gap ++ ":").toList.head? = some c → isBlank c = false := by
  have chars : (kind ++ gap ++ ":").toList = kind.toList ++ (gap.toList ++ [':']) := by simp
  rw [chars]
  intro c first
  cases spelled : kind.toList with
  | nil =>
      have none := close (String.toList_eq_nil_iff.mp spelled)
      rw [spelled, none] at first
      cases first
      rfl
  | cons d rest =>
      rw [spelled] at first
      cases first
      exact name.trimmed.front c (by rw [spelled]; rfl)

theorem trimmed_spelled : Trimmed (kind ++ gap ++ ":").toList := by
  refine ⟨head?_spelled name close, ?_⟩
  intro c last
  rw [String.toList_append, List.getLast?_append] at last
  cases last
  rfl

include blankGap

theorem isIgnored_spelled : isIgnored (kind ++ gap ++ ":") = false := by
  have chars : (kind ++ gap ++ ":").toList = kind.toList ++ (gap.toList ++ [':']) := by simp
  refine isIgnored_eq_false_iff.mpr ⟨by simp, ?_⟩
  rw [chars]
  rintro ⟨after, spelled⟩
  rcases first : kind.toList with _ | ⟨c, _ | ⟨d, rest⟩⟩
  · have none := close (String.toList_eq_nil_iff.mp first)
    rw [first, none] at spelled
    simp at spelled
  · rw [first] at spelled
    cases second : gap.toList with
    | nil =>
        rw [second] at spelled
        simp at spelled
    | cons d rest =>
        rw [second] at spelled
        simp only [List.cons_append, List.nil_append, List.cons.injEq] at spelled
        have blank := blankGap d (by rw [second]; exact List.mem_cons_self)
        rw [← spelled.2.1] at blank
        cases blank
  · rw [first] at spelled
    simp only [List.cons_append, List.nil_append, List.cons.injEq] at spelled
    exact name.noComment ⟨rest, by rw [first, ← spelled.1, ← spelled.2.1]; rfl⟩

/-- Blanks around a declaration and before its colon do not matter, but a line must not begin with
those before the colon. -/
theorem declaration?_spelled {pad tail : String} (blankPad : ∀ c ∈ pad.toList, isBlank c = true)
    (blankTail : ∀ c ∈ tail.toList, isBlank c = true) :
    declaration? (pad ++ (kind ++ gap ++ ":") ++ tail) = some (indentationOf pad, kind) := by
  have text : trim (pad ++ (kind ++ gap ++ ":") ++ tail) = kind ++ gap ++ ":" := by
    rw [trim_append_trailing blankTail, trim_append (trimmed_spelled name close) blankPad]
  have declares : Grammar.Declares (kind ++ gap ++ ":") kind := by
    refine ⟨kind ++ gap, rfl, ?_⟩
    rw [trim_append_trailing blankGap, trim, trimChars_of_trimmed name.trimmed,
      String.ofList_toList]
  have sharp : ∀ c, (kind ++ gap ++ ":" ++ tail).toList.head? = some c → isBlank c = false := by
    intro c first
    rw [String.toList_append, List.head?_append_of_ne_nil _ (by simp)] at first
    exact head?_spelled name close c first
  obtain ⟨ends, named⟩ := declares_iff.mp declares
  refine declaration?_eq_some_iff.mpr ?_
  rw [text]
  refine ⟨isIgnored_spelled name close blankGap, ends, ?_, named⟩
  rw [String.append_assoc, indentationOf_append sharp]

end spelling

/-- Other names for kinds, different ones for different kinds. What a line can declare stays
something that a line can declare. -/
structure Renaming where
  rename : String → String
  injective : Function.Injective rename
  name : ∀ kind, IsName kind → IsName (rename kind)

namespace Renaming

variable (ρ : Renaming)

/-- Whether a line is another line with the kind that it declares renamed. -/
inductive Rewrites : String → String → Prop where
  | kept {raw : String} (plain : declaration? raw = none) : Rewrites raw raw
  | declared {raw other kind : String} {indent : Nat}
      (before : declaration? raw = some (indent, kind))
      (after : declaration? other = some (indent, ρ.rename kind)) : Rewrites raw other

def Renames (source renamed : String) : Prop :=
  List.Forall₂ ρ.Rewrites (splitLines source) (splitLines renamed)

def line (raw : String) : String :=
  match declaration? raw with
  | none => raw
  | some (_, kind) => String.ofList (raw.toList.takeWhile isBlank) ++ (ρ.rename kind ++ ":")

def text (source : String) : String :=
  String.join ((splitLines source).map fun raw => ρ.line raw ++ "\n")

/-- Renamed, a template is the same but for its kinds and what errors quote. -/
def correspondence : Correspondence where
  rename := ρ.rename
  number := Eq
  quote _ _ := True
  quote_refl _ := trivial
  quote_kind _ := trivial
  quote_opening _ := trivial

variable {ρ} {raw : String}

theorem indentationOf_takeWhile_isBlank (raw : String) :
    indentationOf (String.ofList (raw.toList.takeWhile isBlank)) = indentationOf raw := by
  have sharp : ∀ c, (String.ofList (raw.toList.dropWhile isBlank)).toList.head? = some c →
      isBlank c = false := by
    intro c first
    have none := List.head?_dropWhile_not isBlank raw.toList
    rw [← String.toList_ofList (l := raw.toList.dropWhile isBlank), first] at none
    simpa using none
  have whole := indentationOf_append sharp (String.ofList (raw.toList.takeWhile isBlank))
  rwa [← String.ofList_append, List.takeWhile_append_dropWhile, String.ofList_toList,
    eq_comm] at whole

theorem rewrites_line (unbroken : Unbroken raw.toList) : ρ.Rewrites raw (ρ.line raw) := by
  cases found : declaration? raw with
  | none =>
      rw [line, found]
      exact .kept found
  | some declared =>
      obtain ⟨indent, kind⟩ := declared
      obtain ⟨-, -, indented, -⟩ := declaration?_eq_some_iff.mp found
      have name := ρ.name kind (isName_of_declaration? unbroken found)
      have blank : ∀ c ∈ (String.ofList (raw.toList.takeWhile isBlank)).toList,
          isBlank c = true := by
        intro c inside
        rw [String.toList_ofList] at inside
        exact List.mem_takeWhile_imp inside
      have none : ∀ c ∈ "".toList, isBlank c = true := List.forall_mem_nil _
      have after := declaration?_spelled name (fun _ => rfl) none blank none
      rw [String.append_empty, String.append_empty, indentationOf_takeWhile_isBlank,
        indented] at after
      rw [line, found]
      exact .declared found after

theorem unbroken_line (unbroken : Unbroken raw.toList) : Unbroken (ρ.line raw).toList := by
  rw [line]
  split
  · exact unbroken
  · next indent kind found =>
    rw [String.toList_append, String.toList_ofList]
    have name := ρ.name kind (isName_of_declaration? unbroken found)
    exact (unbroken.of_subset fun c inside => List.takeWhile_subset _ inside).append
      name.declaration.unbroken

theorem renames_text (source : String) : ρ.Renames source (ρ.text source) := by
  have lines : splitLines (ρ.text source) = (splitLines source).map ρ.line := by
    have chars : (ρ.text source).toList =
        ((splitLines source).map fun raw => (ρ.line raw).toList).flatMap
          fun line => line ++ ['\n'] := by
      simp [text, List.flatMap_map]
    rw [splitLines, chars, linesOf_flatMap_newline, List.map_map]
    · simp [Function.comp_def]
    · intro line inside
      obtain ⟨raw, member, rfl⟩ := List.mem_map.mp inside
      exact unbroken_line (unbroken_of_mem_splitLines member)
  rw [Renames, lines, List.forall₂_map_right_iff, List.forall₂_same]
  exact fun raw member => rewrites_line (unbroken_of_mem_splitLines member)

theorem Rewrites.matches {other : String} (rewrites : ρ.Rewrites raw other) (number : Nat) :
    List.Forall₂ (Line.Matches ρ.correspondence) (Line.ofRaw? raw number).toList
      (Line.ofRaw? other number).toList := by
  cases rewrites with
  | kept plain =>
      cases read : Line.ofRaw? raw number with
      | none => exact .nil
      | some line =>
          obtain ⟨counts, rfl⟩ := Line.ofRaw?_eq_some_iff.mp read
          have noDeclaration : isDeclaration (trim raw) = false := by
            simpa [declaration?, counts] using plain
          refine .cons ⟨rfl, rfl, trivial, rfl, ?_, fun _ => rfl⟩ .nil
          intro declares
          rw [noDeclaration] at declares
          cases declares
  | declared before after =>
      obtain ⟨counts, declares, indented, named⟩ := declaration?_eq_some_iff.mp before
      obtain ⟨otherCounts, otherDeclares, otherIndented, otherNamed⟩ :=
        declaration?_eq_some_iff.mp after
      rw [Line.ofRaw?_eq_some_iff.mpr ⟨counts, rfl⟩,
        Line.ofRaw?_eq_some_iff.mpr ⟨otherCounts, rfl⟩]
      refine .cons ⟨otherIndented.trans indented.symm, rfl, trivial,
        otherDeclares.trans declares.symm, ?_, ?_⟩ .nil
      · intro _
        rw [otherNamed, named]
        rfl
      · intro noDeclaration
        rw [declares] at noDeclaration
        cases noDeclaration

theorem significant_matches {raws others : List String}
    (rewrites : List.Forall₂ ρ.Rewrites raws others) (first : Nat) :
    List.Forall₂ (Line.Matches ρ.correspondence) (Line.significant first raws)
      (Line.significant first others) := by
  induction rewrites generalizing first with
  | nil => exact .nil
  | cons here later ih =>
      rw [Line.significant, Line.significant]
      exact List.rel_append (here.matches first) (ih (first + 1))

/-- Whether two outcomes are a tree and the same tree renamed, or errors of the same class at the
same line. Trees whose leaves are paragraphs draw the same. -/
inductive SameOutcome (ρ : Renaming) (registry : Registry) :
    Except CompileError Node → Except CompileError Node → Prop where
  | tree {tree other : Node} (renamed : tree.Renamed registry ρ.rename other)
      (draws : (∀ leaf ∈ tree.leaves, leaf.OfClass paragraphWidget) →
        ∀ (subs : Substitutions) {σ : Type} [DrawTarget σ] (target : σ),
          (render other subs target).1 = (render tree subs target).1) :
      SameOutcome ρ registry (.ok tree) (.ok other)
  | factory (fault : Fault) :
      SameOutcome ρ registry (.error (.factory fault)) (.error (.factory fault))
  | noRoot : SameOutcome ρ registry (.error (.malformed .noRoot)) (.error (.malformed .noRoot))
  | located {line : Nat} {text otherText : String} (fault : TemplateFault) :
      SameOutcome ρ registry (.error (.malformed ⟨some (line : Int), some text, fault⟩))
        (.error (.malformed ⟨some (line : Int), some otherText, fault.rename ρ.rename⟩))

theorem sameOutcome_of_outcome {registry : Registry} {outcome other : Except CompileError Node}
    (corresponds : ρ.correspondence.Outcome registry outcome other) :
    ρ.SameOutcome registry outcome other := by
  cases corresponds with
  | tree renamed => exact .tree renamed fun paragraphs _ _ _ => renamed.render_eq paragraphs
  | error same =>
      cases same with
      | noRoot => exact .noRoot
      | factory fault => exact .factory fault
      | located fault moved quoted =>
          obtain rfl : _ = _ := moved
          exact .located fault

theorem exists_declaration?_of_mem_scan {source : String} {line : Line}
    (member : line ∈ scan source) (declares : isDeclaration line.text = true) :
    ∃ raw ∈ splitLines source,
      declaration? raw = some (line.indent, declaredKind line.text) := by
  obtain ⟨index, raw, here, read⟩ := Line.mem_significant member
  obtain ⟨counts, rfl⟩ := Line.ofRaw?_eq_some_iff.mp read
  exact ⟨raw, List.mem_of_getElem? here,
    declaration?_eq_some_iff.mpr ⟨counts, declares, rfl, rfl⟩⟩

/-- No kind is special: under other names a template comes to the same tree under these names, or to
an error of the same class at the same line. Of a registry nothing counts but what it has for the
kinds that are declared. -/
theorem compile_renaming (ρ : Renaming) (registry : Registry) (source : String) :
    ρ.Renames source (ρ.text source) ∧
    (∀ renamed, ρ.Renames source renamed →
      ρ.SameOutcome registry (compile registry source)
        (compile (registry.renamed ρ.rename) renamed)) ∧
    ∀ other : Registry,
      (∀ raw ∈ splitLines source, ∀ indent kind, declaration? raw = some (indent, kind) →
        registry.Agrees other kind kind) →
      compile other source = compile registry source := by
  refine ⟨renames_text source, ?_, ?_⟩
  · intro renamed renames
    have agree : ρ.correspondence.Agree registry (registry.renamed ρ.rename) (scan source) :=
      fun line _ _ => registry.agrees_renamed ρ.injective (declaredKind line.text)
    exact sameOutcome_of_outcome (parse_corresponds agree (significant_matches renames 1))
  · intro other agrees
    have agree : (Correspondence.renumbering Eq).Agree registry other (scan source) := by
      intro line member declares
      obtain ⟨raw, inside, declared⟩ := exists_declaration?_of_mem_scan member declares
      exact agrees raw inside _ _ declared
    have same : List.Forall₂ (Line.Matches (.renumbering Eq)) (scan source) (scan source) :=
      List.forall₂_same.mpr fun _ _ => ⟨rfl, rfl, rfl, rfl, fun _ => rfl, fun _ => rfl⟩
    exact (parse_corresponds agree same).eq_of_same_numbers

def prefixed : Renaming where
  rename kind := "ui:" ++ kind
  injective _ _ same := (String.append_right_inj "ui:").mp same
  name kind name := by
    have chars : ("ui:" ++ kind).toList = ['u', 'i', ':'] ++ kind.toList := by simp
    refine ⟨⟨?_, ?_⟩, ?_, ?_⟩
    · rw [chars]
      rintro c ⟨⟩
      rfl
    · rw [chars, List.getLast?_append]
      intro c last
      cases own : kind.toList.getLast? with
      | none =>
          rw [own] at last
          cases last
          rfl
      | some d =>
          rw [own] at last
          cases last
          exact name.trimmed.back c own
    · rw [chars]
      exact (by decide : Unbroken ['u', 'i', ':']).append name.unbroken
    · rw [chars]
      simp

theorem prefixed_renames :
    prefixed.Renames "Layout :\n    Paragraph:" "ui:Layout :\n    ui:Paragraph:" := by
  have lines : splitLines "Layout :\n    Paragraph:" = ["Layout :", "    Paragraph:"] := by
    decide +kernel
  have others : splitLines "ui:Layout :\n    ui:Paragraph:" =
      ["ui:Layout :", "    ui:Paragraph:"] := by
    decide +kernel
  have row : declaration? "Layout :" = some (0, "Layout") := by decide +kernel
  have otherRow : declaration? "ui:Layout :" = some (0, "ui:Layout") := by decide +kernel
  have leaf : declaration? "    Paragraph:" = some (4, "Paragraph") := by decide +kernel
  have otherLeaf : declaration? "    ui:Paragraph:" = some (4, "ui:Paragraph") := by
    decide +kernel
  rw [Renames, lines, others]
  exact .cons (.declared row otherRow) (.cons (.declared leaf otherLeaf) .nil)

/-- A layout with a paragraph draws the same if both are declared by the longer names. -/
theorem compile_renaming_prefixed :
    ∃ tree other, compile .builtin "Layout :\n    Paragraph:" = .ok tree ∧
      compile (Registry.builtin.renamed prefixed.rename) "ui:Layout :\n    ui:Paragraph:" =
        .ok other ∧
      other.kind = "ui:Layout" ∧
      ∀ (subs : Substitutions) (canvas : Canvas),
        (render other subs canvas).1 = (render tree subs canvas).1 := by
  obtain ⟨-, same, -⟩ := compile_renaming prefixed .builtin "Layout :\n    Paragraph:"
  have lines : scan "Layout :\n    Paragraph:" =
      [⟨"Layout :", 0, 1, "Layout :"⟩, ⟨"Paragraph:", 4, 2, "    Paragraph:"⟩] := by
    decide +kernel
  have block : Reads .builtin layoutWidget indentStep false
      [⟨"Paragraph:", 4, 2, "    Paragraph:"⟩]
      (.ok (layoutWidget.withChildren [paragraphWidget])) [] :=
    .child rfl (by decide) rfl (.finish _ _ _) rfl (.finish _ _ _)
  have reads : ReadsDocument .builtin
      [⟨"Layout :", 0, 1, "Layout :"⟩, ⟨"Paragraph:", 4, 2, "    Paragraph:"⟩] _ [] :=
    .root rfl (by decide) rfl rfl block
  have compiled : compile .builtin "Layout :\n    Paragraph:" =
      .ok (layoutWidget.withChildren [paragraphWidget]) := by
    rw [compile, lines]
    exact (parse_eq_of_readsDocument reads).1
  have outcome := same _ prefixed_renames
  rw [compiled] at outcome
  generalize compile (Registry.builtin.renamed prefixed.rename)
    "ui:Layout :\n    ui:Paragraph:" = renamedOutcome at outcome ⊢
  cases outcome with
  | tree renamed draws =>
      refine ⟨_, _, compiled, rfl, renamed.kind_eq, fun subs canvas => draws ?_ subs canvas⟩
      intro leaf inside
      obtain rfl := List.mem_singleton.mp inside
      rfl

end Renaming

end TuiTemplate
