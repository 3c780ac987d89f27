import TuiTemplate.Proofs.Template.Notes

set_option autoImplicit false

namespace TuiTemplate

open Text Grammar

/-- The errors that a line in a block can meet with. An error quotes the line as it is written, or
the kind, the declaration or the attribute that was read from it. -/
inductive Line.Meets (line : Line) : TemplateError → Prop where
  | indentation (expected : Nat) :
      line.Meets ⟨some line.number, some line.raw, .indentation expected⟩
  | lateAttribute : line.Meets ⟨some line.number, some line.raw, .lateAttribute⟩
  | notInBlock : line.Meets ⟨some line.number, some line.raw, .notInBlock⟩
  | unknownKind {kind : String} (declares : Declares line.text kind) :
      line.Meets ⟨some line.number, some kind, .unknownKind kind⟩
  | childUnderLeaf {kind : String} (declares : Declares line.text kind) (leaf : String) :
      line.Meets ⟨some line.number, some (kind ++ ":"), .childUnderLeaf leaf⟩
  | unknownAttribute {key value : String} (sets : Sets line.text key value) (kind : String) :
      line.Meets ⟨some line.number, some (key ++ ": " ++ value), .unknownAttribute kind key value⟩
  | invalidValue {key value : String} (sets : Sets line.text key value) (kind : String)
      (allowed : List String) :
      line.Meets
        ⟨some line.number, some (key ++ ": " ++ value), .invalidValue kind key value allowed⟩

section meets

variable {registry : Registry} {line : Line} {error : TemplateError}

theorem Line.meets_of_unresolved {reason : ResolveError}
    (declares : isDeclaration line.text = true)
    (failed : registry.resolve (declaredKind line.text) (some line.number) = .error reason)
    (same : CompileError.ofResolve reason = .malformed error) : line.Meets error := by
  rcases Registry.resolve_eq_error failed with rfl | ⟨_, _, _, _, rfl⟩
  · cases same
    exact .unknownKind (declares_iff.mpr ⟨declares, rfl⟩)
  · cases same

theorem Line.meets_of_refusedChild {node child parent : Node} {left rest : List Line}
    {indent : Nat} (declares : isDeclaration line.text = true)
    (resolved : registry.resolve (declaredKind line.text) (some line.number) = .ok node)
    (inner : Reads registry node indent false rest (.ok child) left)
    (refused : parent.acceptChild child (some line.number) = .error error) : line.Meets error := by
  have kind : child.kind = declaredKind line.text := by
    rw [inner.kind_eq rfl, Registry.kind_of_resolve resolved]
  obtain ⟨number, text, fault⟩ := Node.acceptChild_eq_error refused
  obtain ⟨_, _, _⟩ := error
  cases number
  cases text
  cases fault
  exact .childUnderLeaf (declares_iff.mpr ⟨declares, kind.symm⟩) parent.kind

theorem Line.meets_of_refusedSetting {parent : Node} (sets : isAttribute line.text = true)
    (refused : parent.acceptAttribute (attributeParts line.text).1 (attributeParts line.text).2
      (some line.number) = .error error) : line.Meets error := by
  have setting : Sets line.text (attributeParts line.text).1 (attributeParts line.text).2 :=
    sets_iff.mpr ⟨sets, rfl⟩
  obtain ⟨number, text, unknown | ⟨allowed, invalid⟩⟩ := Node.acceptAttribute_eq_error refused
  · obtain ⟨_, _, _⟩ := error
    cases number
    cases text
    cases unknown
    exact .unknownAttribute setting parent.kind
  · obtain ⟨_, _, _⟩ := error
    cases number
    cases text
    cases invalid
    exact .invalidValue setting parent.kind allowed

/-- An error in a block is met by one of its lines. -/
theorem Reads.exists_meets {parent : Node} {indent : Nat} {sawChild : Bool}
    {lines left : List Line} {outcome : Except CompileError Node}
    (reads : Reads registry parent indent sawChild lines outcome left)
    (failed : outcome = .error (.malformed error)) : ∃ line ∈ lines, line.Meets error := by
  induction reads with
  | finish parent indent sawChild => cases failed
  | dedent shallower onStep => cases failed
  | offStep shallower unaligned =>
      cases failed
      exact ⟨_, List.mem_cons_self, .indentation _⟩
  | tooDeep deeper =>
      cases failed
      exact ⟨_, List.mem_cons_self, .indentation _⟩
  | unresolved level declares unknown =>
      exact ⟨_, List.mem_cons_self, Line.meets_of_unresolved declares unknown
        (Except.error.inj failed)⟩
  | @brokenChild parent node indent sawChild line rest left reason level declares resolved inner
      innerIh =>
      obtain ⟨other, inside, meets⟩ := innerIh failed
      exact ⟨other, List.mem_cons_of_mem line inside, meets⟩
  | refusedChild level declares resolved inner refused innerIh =>
      cases failed
      exact ⟨_, List.mem_cons_self, Line.meets_of_refusedChild declares resolved inner refused⟩
  | @child parent node child grown indent sawChild line rest left final outcome level declares
      resolved inner accepted later innerIh laterIh =>
      obtain ⟨other, inside, meets⟩ := laterIh failed
      exact ⟨other, List.mem_cons_of_mem line (inner.suffix.subset inside), meets⟩
  | lateSetting level sets =>
      cases failed
      exact ⟨_, List.mem_cons_self, .lateAttribute⟩
  | refusedSetting level sets refused =>
      cases failed
      exact ⟨_, List.mem_cons_self, Line.meets_of_refusedSetting sets refused⟩
  | @setting parent grown indent line rest final outcome level sets accepted later laterIh =>
      obtain ⟨other, inside, meets⟩ := laterIh failed
      exact ⟨other, List.mem_cons_of_mem line inside, meets⟩
  | stray level noDeclaration noAttribute =>
      cases failed
      exact ⟨_, List.mem_cons_self, .notInBlock⟩

end meets

/-- The faults that are found outside of blocks, on the line of a root or in its place. -/
inductive TemplateFault.OfRoot : TemplateFault → Prop where
  | notDeclaration : OfRoot .notDeclaration
  | rootNotContainer (kind : String) : OfRoot (.rootNotContainer kind)
  | manyRoots (roots : List String) : OfRoot (.manyRoots roots)

/-- An error of a document is met by one of its lines, or is about a root and quotes a line as it is
written, unless there are no lines. -/
theorem ReadsDocument.exists_meets {registry : Registry} {lines left : List Line}
    {outcome : Except CompileError Node} (reads : ReadsDocument registry lines outcome left)
    {error : TemplateError} (failed : outcome = .error (.malformed error))
    (located : error ≠ .noRoot) :
    ∃ line ∈ lines, line.Meets error ∨
      ∃ fault : TemplateFault, fault.OfRoot ∧ error = ⟨some line.number, some line.raw, fault⟩ := by
  cases reads with
  | noLine =>
      cases failed
      exact absurd rfl located
  | indented deeper =>
      cases failed
      exact ⟨_, List.mem_cons_self, .inl (.indentation 0)⟩
  | undeclared level noDeclaration =>
      cases failed
      exact ⟨_, List.mem_cons_self, .inr ⟨_, .notDeclaration, rfl⟩⟩
  | unresolved level declares unknown =>
      exact ⟨_, List.mem_cons_self, .inl (Line.meets_of_unresolved declares unknown
        (Except.error.inj failed))⟩
  | notContainer level declares resolved refused =>
      cases failed
      exact ⟨_, List.mem_cons_self, .inr ⟨_, .rootNotContainer _, rfl⟩⟩
  | @brokenRoot line rest left node reason level declares resolved container block =>
      obtain ⟨other, inside, meets⟩ := block.exists_meets failed
      exact ⟨other, List.mem_cons_of_mem line inside, .inl meets⟩
  | @root line rest left node root level declares resolved container block =>
      rcases left with _ | ⟨next, after⟩
      · cases failed
      · have inside : next ∈ line :: rest :=
          List.mem_cons_of_mem line (block.suffix.subset List.mem_cons_self)
        rw [afterRoot] at failed
        split at failed
        · cases failed
          exact ⟨next, inside, .inr ⟨_, .manyRoots _, rfl⟩⟩
        · cases failed
          exact ⟨next, inside, .inr ⟨_, .notDeclaration, rfl⟩⟩

section fragments

/-- A text is cut at its first colon in one way. -/
theorem cut_at_colon {front other rest otherRest : List Char} (absent : ':' ∉ front)
    (otherAbsent : ':' ∉ other) (same : front ++ ':' :: rest = other ++ ':' :: otherRest) :
    front = other ∧ rest = otherRest := by
  have lengths := congrArg (List.idxOf ':') same
  rw [List.idxOf_append_of_notMem absent, List.idxOf_append_of_notMem otherAbsent,
    List.idxOf_cons_self, List.idxOf_cons_self] at lengths
  obtain ⟨fronts, backs⟩ := List.append_inj same (by omega)
  exact ⟨fronts, (List.cons.inj backs).2⟩

/-- A part with a colon stands around the first colon of a text if it does not stand behind it. -/
theorem around_first_colon {before after key rest : List Char}
    (inside : key ++ ':' :: rest <:+: before ++ ':' :: after) (first : ':' ∉ before)
    (noColon : ':' ∉ key) (notBehind : ¬ key ++ ':' :: rest <:+: after) :
    key <:+ before ∧ rest <+: after := by
  obtain ⟨pre, post, whole⟩ := inside
  rw [List.append_assoc] at whole
  by_cases early : ':' ∈ pre
  · obtain ⟨start, more, rfl, absent⟩ := List.eq_append_cons_of_mem early
    rw [List.append_assoc] at whole
    obtain ⟨-, behind⟩ := cut_at_colon absent first whole
    exact absurd ⟨more, post, by rw [List.append_assoc]; exact behind⟩ notBehind
  · have absent : ':' ∉ pre ++ key := by
      rw [List.mem_append, not_or]
      exact ⟨early, noColon⟩
    rw [List.append_assoc, List.cons_append, ← List.append_assoc] at whole
    obtain ⟨front, back⟩ := cut_at_colon absent first whole
    exact ⟨⟨pre, front⟩, ⟨post, back⟩⟩

variable {cs : List Char}

theorem front_of_spelled {front back : List Char} (spelled : trimChars cs = front ++ back)
    (c : Char) (first : front.head? = some c) : isBlank c = false := by
  apply (trimmed_trimChars cs).front
  rw [spelled, List.head?_append, first, Option.some_or]

/-- A declaration that is put together again stands in the line just if the line has no blank before
its colon. -/
theorem infix_declaration_iff {name : List Char} (spelled : trimChars cs = name ++ [':']) :
    trimChars name ++ [':'] <:+: cs ↔ trimChars name = name := by
  constructor
  · intro inside
    have trimmed := trimmed_append_colon (trimmed_trimChars name)
    have filled : trimChars name ++ [':'] ≠ [] := List.concat_ne_nil _ _
    have inText := infix_trimChars_of_trimmed inside trimmed filled
    rw [spelled, List.infix_concat_iff] at inText
    rcases inText with ends | inName
    · obtain ⟨before, whole⟩ := ends
      rw [← List.append_assoc] at whole
      exact trimChars_eq_self_of_suffix (front_of_spelled spelled)
        ⟨before, (List.append_inj' whole rfl).1⟩
    · have shorter := (infix_trimChars_of_trimmed inName trimmed filled).length_le
      rw [List.length_append, List.length_singleton] at shorter
      omega
  · intro same
    rw [same, ← spelled]
    exact infix_trimChars cs

/-- A value that stands behind a space, with no blank at the end of the line, has no other blank
before it. -/
theorem eq_space_cons_trimChars {after : List Char}
    (sharp : ∀ c, after.getLast? = some c → isBlank c = false) (valued : trimChars after ≠ [])
    (begins : ' ' :: trimChars after <+: after) : after = ' ' :: trimChars after := by
  obtain ⟨rest, space⟩ := begins
  rw [List.cons_append] at space
  have unspaced : trimChars after = trimChars (trimChars after ++ rest) := by
    conv_lhs => rw [← space]
    exact trimChars_append_of_blank (List.forall_mem_singleton.mpr rfl) (trimChars after ++ rest)
  have trimmed : Trimmed (trimChars after ++ rest) := by
    constructor
    · intro c first
      rw [List.head?_append_of_ne_nil _ valued] at first
      exact (trimmed_trimChars after).front c first
    · intro c last
      apply sharp
      rw [← space, List.getLast?_cons, last, Option.getD_some]
  rw [trimChars_of_trimmed trimmed] at unspaced
  rw [← unspaced] at space
  exact space.symm

/-- An attribute that is put together again stands in the line just if the line has no blank before
its colon and one space behind it. -/
theorem infix_setting_iff {before after : List Char}
    (spelled : trimChars cs = before ++ ':' :: after) (first : ':' ∉ before) (filled : after ≠ []) :
    trimChars before ++ ':' :: ' ' :: trimChars after <:+: cs ↔
      trimChars before = before ∧ after = ' ' :: trimChars after := by
  have sharp : ∀ c, after.getLast? = some c → isBlank c = false := by
    intro c last
    apply (trimmed_trimChars cs).back
    rw [spelled, List.getLast?_append, List.getLast?_cons, last]
    rfl
  have lastOfAfter := List.getLast?_eq_getLast_of_ne_nil filled
  have lastOfValue := getLast?_trimChars lastOfAfter (sharp _ lastOfAfter)
  have valued : trimChars after ≠ [] := List.ne_nil_of_mem (List.mem_of_getLast? lastOfValue)
  constructor
  · intro inside
    have trimmed : Trimmed (trimChars before ++ ':' :: ' ' :: trimChars after) := by
      refine ⟨front_append_colon (trimmed_trimChars before) _, ?_⟩
      intro c last
      rw [List.getLast?_append, List.getLast?_cons, List.getLast?_cons, lastOfValue] at last
      cases last
      exact sharp _ lastOfAfter
    have inText := infix_trimChars_of_trimmed inside trimmed (by simp)
    rw [spelled] at inText
    have notBehind : ¬ trimChars before ++ ':' :: ' ' :: trimChars after <:+: after := by
      intro inAfter
      have shorter := (infix_trimChars_of_trimmed inAfter trimmed (by simp)).length_le
      simp only [List.length_append, List.length_cons] at shorter
      omega
    obtain ⟨ends, begins⟩ := around_first_colon inText first
      (fun colon => first (mem_of_mem_trimChars colon)) notBehind
    exact ⟨trimChars_eq_self_of_suffix (front_of_spelled spelled) ends,
      eq_space_cons_trimChars sharp valued begins⟩
  · rintro ⟨key, value⟩
    rw [key, ← value, ← spelled]
    exact infix_trimChars cs

theorem infix_of_declares {raw kind : String} (declares : Declares (trim raw) kind) :
    kind.toList <:+: raw.toList := by
  obtain ⟨name, spelled, rfl⟩ := declares
  have chars : trimChars raw.toList = name.toList ++ [':'] := by
    simpa [trim] using congrArg String.toList spelled
  have inName : (trim name).toList <:+: name.toList := by
    rw [trim, String.toList_ofList]
    exact infix_trimChars name.toList
  have inText : name.toList <:+: trimChars raw.toList := by
    rw [chars]
    exact (List.prefix_append _ _).isInfix
  exact (inName.trans inText).trans (infix_trimChars raw.toList)

theorem infix_iff_of_declares {raw kind : String} (declares : Declares (trim raw) kind) :
    (kind ++ ":").toList <:+: raw.toList ↔ trim raw = kind ++ ":" := by
  obtain ⟨name, spelled, rfl⟩ := declares
  have chars : trimChars raw.toList = name.toList ++ [':'] := by
    simpa [trim] using congrArg String.toList spelled
  have quoted : (trim name ++ ":").toList = trimChars name.toList ++ [':'] := by simp [trim]
  rw [quoted, infix_declaration_iff chars, spelled, ← String.toList_inj, quoted]
  simp [eq_comm]

theorem infix_iff_of_sets {raw key value : String} (sets : Sets (trim raw) key value) :
    (key ++ ": " ++ value).toList <:+: raw.toList ↔ trim raw = key ++ ": " ++ value := by
  obtain ⟨⟨before, after, spelled, first, rfl, rfl⟩, noDeclaration⟩ := sets
  have chars : trimChars raw.toList = before.toList ++ ':' :: after.toList := by
    simpa [trim] using congrArg String.toList spelled
  have filled : after.toList ≠ [] := by
    intro empty
    refine noDeclaration ⟨before, ?_⟩
    rw [spelled, String.toList_eq_nil_iff.mp empty, String.append_empty]
  have quoted : (trim before ++ ": " ++ trim after).toList =
      trimChars before.toList ++ ':' :: ' ' :: trimChars after.toList := by simp [trim]
  have whole : (before ++ ":" ++ after).toList = before.toList ++ ':' :: after.toList := by simp
  rw [quoted, infix_setting_iff chars first filled, spelled, ← String.toList_inj, quoted, whole]
  constructor
  · rintro ⟨key, value⟩
    rw [key, ← value]
  · intro same
    obtain ⟨key, value⟩ :=
      cut_at_colon first (fun inside => first (mem_of_mem_trimChars inside)) same
    exact ⟨key.symm, value⟩

end fragments

namespace TemplateFault

/-- Whether a line without the blanks around it is spelled as the error of a fault on it spells it:
a declaration without a blank before its colon, an attribute with no blank before its colon and one
space behind. Other errors quote the line or a part of it as it is. -/
def SpelledBy (text : String) : TemplateFault → Prop
  | .childUnderLeaf _ => text = declaredKind text ++ ":"
  | .unknownAttribute _ key value | .invalidValue _ key value _ => text = key ++ ": " ++ value
  | _ => True

end TemplateFault

/-- An error that a line meets with quotes a part of the line just if the line is spelled as the
error spells it. -/
theorem Line.Meets.infix_iff {line : Line} {error : TemplateError} (meets : line.Meets error)
    (text : line.text = trim line.raw) :
    ∃ quoted, error.text = some quoted ∧
      (quoted.toList <:+: line.raw.toList ↔ error.fault.SpelledBy (trim line.raw)) := by
  cases meets with
  | indentation expected => exact ⟨_, rfl, iff_of_true List.infix_rfl trivial⟩
  | lateAttribute => exact ⟨_, rfl, iff_of_true List.infix_rfl trivial⟩
  | notInBlock => exact ⟨_, rfl, iff_of_true List.infix_rfl trivial⟩
  | unknownKind declares =>
      rw [text] at declares
      exact ⟨_, rfl, iff_of_true (infix_of_declares declares) trivial⟩
  | childUnderLeaf declares leaf =>
      rw [text] at declares
      refine ⟨_, rfl, ?_⟩
      rw [infix_iff_of_declares declares, TemplateFault.SpelledBy, (declares_iff.mp declares).2]
  | unknownAttribute sets kind =>
      rw [text] at sets
      exact ⟨_, rfl, infix_iff_of_sets sets⟩
  | invalidValue sets kind allowed =>
      rw [text] at sets
      exact ⟨_, rfl, infix_iff_of_sets sets⟩

theorem Line.Meets.line_eq {line : Line} {error : TemplateError} (meets : line.Meets error) :
    error.line = some (line.number : Int) := by
  cases meets <;> rfl

theorem TemplateFault.OfRoot.spelledBy {fault : TemplateFault} (ofRoot : fault.OfRoot)
    (text : String) : fault.SpelledBy text := by
  cases ofRoot <;> trivial

theorem exists_raw_of_mem_scan {source : String} {line : Line} (member : line ∈ scan source) :
    ∃ index, (splitLines source)[index]? = some line.raw ∧ ¬ IsNote line.raw ∧
      line.number = index + 1 ∧ line.text = trim line.raw := by
  obtain ⟨index, raw, here, read⟩ := Line.mem_significant member
  have counts : ¬ IsNote raw := by
    rw [← @Line.ofRaw?_eq_none_iff raw (1 + index), read]
    exact Option.some_ne_none line
  obtain ⟨-, rfl⟩ := Line.ofRaw?_eq_some_iff.mp read
  exact ⟨index, here, counts, Nat.add_comm 1 index, rfl⟩

/-- Every error with a place tells the number of a line that counts. It quotes a part of this line
as it is written, unless it puts a declaration or an attribute together again that is spelled in
another way. -/
theorem compile_quotes_iff {registry : Registry} {source : String} {error : TemplateError}
    (failed : compile registry source = .error (.malformed error)) (located : error ≠ .noRoot) :
    ∃ index raw, (splitLines source)[index]? = some raw ∧ ¬ IsNote raw ∧
      error.line = some ((index + 1 : Nat) : Int) ∧
      ∃ quoted, error.text = some quoted ∧
        (quoted.toList <:+: raw.toList ↔ error.fault.SpelledBy (trim raw)) := by
  have reads := readsDocument_parse registry (scan source)
  obtain ⟨line, inside, found⟩ := reads.exists_meets failed located
  obtain ⟨index, here, counts, number, text⟩ := exists_raw_of_mem_scan inside
  refine ⟨index, line.raw, here, counts, ?_⟩
  rw [← number]
  rcases found with meets | ⟨fault, ofRoot, rfl⟩
  · exact ⟨meets.line_eq, meets.infix_iff text⟩
  · exact ⟨rfl, _, rfl, iff_of_true List.infix_rfl (ofRoot.spelledBy _)⟩

/-- A layout with an attribute that it does not take, which the error puts together again. -/
theorem compile_unspacedSetting :
    compile .builtin "Layout:\n    colour:red" = .error (.malformed
      ⟨some 2, some "colour: red", .unknownAttribute "Layout" "colour" "red"⟩) ∧
    ¬ "colour: red".toList <:+: "    colour:red".toList := by
  refine ⟨?_, by decide +kernel⟩
  have lines : scan "Layout:\n    colour:red" =
      [⟨"Layout:", 0, 1, "Layout:"⟩, ⟨"colour:red", 4, 2, "    colour:red"⟩] := by
    decide +kernel
  have reads : ReadsDocument .builtin
      [⟨"Layout:", 0, 1, "Layout:"⟩, ⟨"colour:red", 4, 2, "    colour:red"⟩] _ [] :=
    .brokenRoot rfl (by decide) rfl rfl (.refusedSetting rfl (by decide) rfl)
  rw [compile, lines]
  exact (parse_eq_of_readsDocument reads).1

/-- With one space behind its colon the attribute stands in its line as the error quotes it. -/
theorem compile_quotes_iff_spaced :
    compile .builtin "Layout:\n\n    colour: red  " = .error (.malformed
      ⟨some 3, some "colour: red", .unknownAttribute "Layout" "colour" "red"⟩) ∧
    "colour: red".toList <:+: "    colour: red  ".toList := by
  have lines : scan "Layout:\n\n    colour: red  " =
      [⟨"Layout:", 0, 1, "Layout:"⟩, ⟨"colour: red", 4, 3, "    colour: red  "⟩] := by
    decide +kernel
  have reads : ReadsDocument .builtin
      [⟨"Layout:", 0, 1, "Layout:"⟩, ⟨"colour: red", 4, 3, "    colour: red  "⟩]
      (.error (.malformed
        ⟨some 3, some "colour: red", .unknownAttribute "Layout" "colour" "red"⟩)) [] :=
    .brokenRoot rfl (by decide) rfl rfl (.refusedSetting rfl (by decide) rfl)
  have failed : compile .builtin "Layout:\n\n    colour: red  " = .error (.malformed
      ⟨some 3, some "colour: red", .unknownAttribute "Layout" "colour" "red"⟩) := by
    rw [compile, lines]
    exact (parse_eq_of_readsDocument reads).1
  refine ⟨failed, ?_⟩
  obtain ⟨index, raw, here, -, number, quoted, told, quotes⟩ :=
    compile_quotes_iff failed (by simp [TemplateError.noRoot])
  obtain rfl : index = 2 := by
    have same := Option.some.inj number
    omega
  have third : (splitLines "Layout:\n\n    colour: red  ")[2]? = some "    colour: red  " := by
    decide +kernel
  obtain rfl := Option.some.inj (here.symm.trans third)
  obtain rfl := Option.some.inj told
  have spelled : trim "    colour: red  " = "colour" ++ ": " ++ "red" := by decide +kernel
  exact quotes.mpr spelled

end TuiTemplate
