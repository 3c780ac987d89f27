import TuiTemplate.Text.Lines

set_option autoImplicit false

namespace TuiTemplate.Text

def Unbroken (cs : List Char) : Prop := ∀ c ∈ cs, isLineBreak c = false

instance (cs : List Char) : Decidable (Unbroken cs) := List.decidableBAll _ cs

theorem unbroken_singleton {c : Char} (plain : isLineBreak c = false) : Unbroken [c] := by
  intro d inside
  rwa [List.mem_singleton.mp inside]

theorem Unbroken.append {first second : List Char} (front : Unbroken first)
    (back : Unbroken second) : Unbroken (first ++ second) := by
  intro c inside
  rcases List.mem_append.mp inside with inFront | inBack
  · exact front c inFront
  · exact back c inBack

theorem Unbroken.of_subset {cs part : List Char} (unbroken : Unbroken cs)
    (inside : ∀ c ∈ part, c ∈ cs) : Unbroken part :=
  fun c member => unbroken c (inside c member)

theorem linesOf_cons_of_isLineBreak_eq_false {c : Char} (plain : isLineBreak c = false)
    (rest : List Char) :
    linesOf (c :: rest) =
      match linesOf rest with
      | [] => [[c]]
      | line :: lines => (c :: line) :: lines := by
  have noReturn : c ≠ '\r' := by
    rintro rfl
    cases plain
  rw [linesOf]
  · cases linesOf rest <;> simp only [plain, Bool.false_eq_true, ↓reduceIte]
  · intro tail same
    exact absurd same noReturn

/-- Whether a text ends one line: a breaking character, or a carriage return with a line feed. -/
def IsTerminator (mark : List Char) : Prop :=
  mark = ['\r', '\n'] ∨ ∃ c, isLineBreak c = true ∧ mark = [c]

theorem isTerminator_newline : IsTerminator ['\n'] := .inr ⟨'\n', rfl, rfl⟩

theorem linesOf_terminator {mark rest : List Char} (terminator : IsTerminator mark)
    (noPair : mark = ['\r'] → rest.head? ≠ some '\n') :
    linesOf (mark ++ rest) = [] :: linesOf rest := by
  rcases terminator with rfl | ⟨c, breaks, rfl⟩
  · rfl
  · rw [List.singleton_append, linesOf, if_pos breaks]
    rintro tail rfl rfl
    exact noPair rfl rfl

theorem linesOf_append_terminator {line mark rest : List Char} (unbroken : Unbroken line)
    (terminator : IsTerminator mark) (noPair : mark = ['\r'] → rest.head? ≠ some '\n') :
    linesOf (line ++ (mark ++ rest)) = line :: linesOf rest := by
  induction line with
  | nil => exact linesOf_terminator terminator noPair
  | cons c line ih =>
      rw [List.cons_append, linesOf_cons_of_isLineBreak_eq_false (unbroken c (by simp)),
        ih (unbroken.of_subset fun d inside => List.mem_cons_of_mem c inside)]

theorem linesOf_eq_singleton {line : List Char} (unbroken : Unbroken line)
    (filled : line ≠ []) : linesOf line = [line] := by
  induction line with
  | nil => exact absurd rfl filled
  | cons c rest ih =>
      rw [linesOf_cons_of_isLineBreak_eq_false (unbroken c (by simp))]
      cases rest with
      | nil => rfl
      | cons next after =>
          rw [ih (unbroken.of_subset fun d inside => List.mem_cons_of_mem c inside) (by simp)]

/-- Lines that are each ended by a line feed are the lines of the whole. -/
theorem linesOf_flatMap_newline {lines : List (List Char)}
    (unbroken : ∀ line ∈ lines, Unbroken line) :
    linesOf (lines.flatMap fun line => line ++ ['\n']) = lines := by
  induction lines with
  | nil => rfl
  | cons line rest ih =>
      rw [List.flatMap_cons, List.append_assoc,
        linesOf_append_terminator (unbroken line (by simp)) isTerminator_newline (by simp),
        ih fun other inside => unbroken other (List.mem_cons_of_mem line inside)]

theorem newline_not_mem_intercalate_return {lines : List (List Char)}
    (unbroken : ∀ line ∈ lines, Unbroken line) : '\n' ∉ ['\r'].intercalate lines := by
  have absent : ∀ line ∈ lines, '\n' ∉ line := by
    intro line inside feed
    cases unbroken line inside '\n' feed
  induction lines with
  | nil => exact List.not_mem_nil
  | cons line rest ih =>
      obtain ⟨here, later⟩ := List.forall_mem_cons.mp absent
      cases rest with
      | nil => rwa [List.intercalate_singleton]
      | cons next after =>
          rw [List.intercalate_cons_cons, List.mem_append, List.mem_append]
          rintro ((inLine | inMark) | inRest)
          · exact here inLine
          · cases List.mem_singleton.mp inMark
          · exact ih (List.forall_mem_cons.mp unbroken).2 later inRest

/-- Lines that a terminator joins are the lines of the whole, but for an empty line at the end. -/
theorem linesOf_intercalate {mark : List Char} (terminator : IsTerminator mark)
    {lines : List (List Char)} (unbroken : ∀ line ∈ lines, Unbroken line) :
    linesOf (mark.intercalate lines) = lines ∨
      linesOf (mark.intercalate lines) ++ [[]] = lines := by
  induction lines with
  | nil => exact .inl rfl
  | cons line rest ih =>
      obtain ⟨here, later⟩ := List.forall_mem_cons.mp unbroken
      cases rest with
      | nil =>
          rw [List.intercalate_singleton]
          by_cases empty : line = []
          · subst empty
            exact .inr rfl
          · exact .inl (linesOf_eq_singleton here empty)
      | cons next after =>
          have noPair : mark = ['\r'] →
              (mark.intercalate (next :: after)).head? ≠ some '\n' := by
            rintro rfl first
            exact newline_not_mem_intercalate_return later (List.mem_of_head? first)
          rw [List.intercalate_cons_cons, List.append_assoc,
            linesOf_append_terminator here terminator noPair, List.cons_append]
          rcases ih later with whole | short
          · exact .inl (congrArg (line :: ·) whole)
          · exact .inr (congrArg (line :: ·) short)

theorem filter_intercalate (p : Char → Bool) (mark : List Char) (lines : List (List Char)) :
    (mark.intercalate lines).filter p =
      (mark.filter p).intercalate (lines.map (List.filter p)) := by
  induction lines with
  | nil => rfl
  | cons line rest ih =>
      cases rest with
      | nil => rw [List.intercalate_singleton, List.map_singleton, List.intercalate_singleton]
      | cons next after =>
          rw [List.intercalate_cons_cons, List.filter_append, List.filter_append, ih,
            List.map_cons, List.map_cons, List.map_cons, List.intercalate_cons_cons]

/-- Lines that are joined by newlines and have none of their own come back when the text is split
at newlines. A text of no lines comes back as one that is empty. -/
theorem splitOn_intercalate_newline {lines : List (List Char)}
    (absent : ∀ line ∈ lines, '\n' ∉ line) :
    ((['\n'].intercalate lines).splitOn '\n').length = max lines.length 1 ∧
      ∀ i < lines.length, ((['\n'].intercalate lines).splitOn '\n')[i]? = lines[i]? := by
  cases lines with
  | nil => exact ⟨rfl, fun i impossible => absurd impossible (Nat.not_lt_zero i)⟩
  | cons line rest =>
      rw [List.splitOn_intercalate '\n' absent (List.cons_ne_nil line rest)]
      refine ⟨?_, fun i _ => rfl⟩
      rw [List.length_cons]
      omega

theorem unbroken_of_mem_linesOf {cs line : List Char} (inside : line ∈ linesOf cs) :
    Unbroken line := by
  fun_induction linesOf cs generalizing line with
  | case1 => cases inside
  | case2 rest ih =>
      rcases List.mem_cons.mp inside with rfl | later
      · intro c impossible
        cases impossible
      · exact ih later
  | case3 c rest notPair breaks ih =>
      rcases List.mem_cons.mp inside with rfl | later
      · intro c impossible
        cases impossible
      · exact ih later
  | case4 c rest notPair plain empty ih =>
      rw [List.mem_singleton.mp inside]
      intro d member
      rw [List.mem_singleton.mp member]
      exact eq_false_of_ne_true plain
  | case5 c rest notPair plain first later split ih =>
      rw [split] at ih
      rcases List.mem_cons.mp inside with rfl | after
      · intro d member
        rcases List.mem_cons.mp member with rfl | below
        · exact eq_false_of_ne_true plain
        · exact ih (by simp) d below
      · exact ih (List.mem_cons_of_mem first after)

theorem toList_intercalate_newline {lines : List String} (filled : lines ≠ []) :
    ("\n".intercalate lines ++ "\n").toList =
      (lines.map String.toList).flatMap fun line => line ++ ['\n'] := by
  rw [String.toList_append, String.toList_intercalate]
  induction lines with
  | nil => exact absurd rfl filled
  | cons line rest ih =>
      cases rest with
      | nil => simp
      | cons next after =>
          rw [List.map_cons, List.map_cons, List.intercalate_cons_cons, List.append_assoc,
            ← List.map_cons, ih (by simp)]
          simp

/-- A text that is written line by line is read as these lines. -/
theorem splitLines_intercalate_newline {lines : List String} (filled : lines ≠ [])
    (unbroken : ∀ line ∈ lines, Unbroken line.toList) :
    splitLines ("\n".intercalate lines ++ "\n") = lines := by
  rw [splitLines, toList_intercalate_newline filled, linesOf_flatMap_newline, List.map_map]
  · simp [Function.comp_def]
  · intro line inside
    obtain ⟨text, member, rfl⟩ := List.mem_map.mp inside
    exact unbroken text member

theorem splitLines_intercalate {mark : String} (terminator : IsTerminator mark.toList)
    {lines : List String} (unbroken : ∀ line ∈ lines, Unbroken line.toList) :
    splitLines (mark.intercalate lines) = lines ∨
      splitLines (mark.intercalate lines) ++ [""] = lines := by
  have each : ∀ line ∈ lines.map String.toList, Unbroken line := by
    intro line inside
    obtain ⟨text, member, rfl⟩ := List.mem_map.mp inside
    exact unbroken text member
  have spelled : (lines.map String.toList).map String.ofList = lines := by
    simp [Function.comp_def]
  rw [splitLines, String.toList_intercalate]
  rcases linesOf_intercalate terminator each with whole | short
  · exact .inl (by rw [whole, spelled])
  · refine .inr ?_
    have same := congrArg (List.map String.ofList) short
    rwa [List.map_append, spelled] at same

theorem unbroken_of_mem_splitLines {source line : String} (inside : line ∈ splitLines source) :
    Unbroken line.toList := by
  obtain ⟨cs, member, rfl⟩ := List.mem_map.mp inside
  rw [String.toList_ofList]
  exact unbroken_of_mem_linesOf member

/-- Reading a file changes nothing in a text without carriage returns. -/
theorem unifyNewlineChars_eq_self {cs : List Char} (plain : '\r' ∉ cs) :
    unifyNewlineChars cs = cs := by
  fun_induction unifyNewlineChars cs with
  | case1 => rfl
  | case2 rest ih => exact absurd List.mem_cons_self plain
  | case3 c rest notPair ih =>
      simp only [List.mem_cons, not_or] at plain
      rw [if_neg (Ne.symm plain.1), ih plain.2]

/-- The breaks that a file was written with do not show in its lines. A return that becomes a line
feed never joins the one behind it, since a pair is taken as a whole. -/
theorem linesOf_unifyNewlineChars (cs : List Char) :
    linesOf (unifyNewlineChars cs) = linesOf cs := by
  fun_induction unifyNewlineChars cs with
  | case1 => rfl
  | case2 rest ih =>
      change [] :: linesOf (unifyNewlineChars rest) = [] :: linesOf rest
      rw [ih]
  | case3 c rest notPair ih =>
      cases breaks : isLineBreak c with
      | true =>
          have alone : [c] = ['\r'] → rest.head? ≠ some '\n' := by
            intro isReturn feed
            obtain ⟨after, rfl⟩ := List.head?_eq_some_iff.mp feed
            exact notPair after (List.singleton_inj.mp isReturn) rfl
          have written := linesOf_terminator (.inr ⟨c, breaks, rfl⟩) alone
          have unified : linesOf ([if c = '\r' then '\n' else c] ++ unifyNewlineChars rest) =
              [] :: linesOf (unifyNewlineChars rest) := by
            refine linesOf_terminator (.inr ⟨_, ?_, rfl⟩) fun isReturn => ?_
            · split
              · rfl
              · exact breaks
            · have same := List.singleton_inj.mp isReturn
              split at same
              · cases same
              · next other => exact absurd same other
          rw [List.singleton_append] at written unified
          rw [written, unified, ih]
      | false =>
          have other : c ≠ '\r' := by
            rintro rfl
            cases breaks
          rw [if_neg other, linesOf_cons_of_isLineBreak_eq_false breaks,
            linesOf_cons_of_isLineBreak_eq_false breaks, ih]

end TuiTemplate.Text
