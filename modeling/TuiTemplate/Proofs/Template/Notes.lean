import TuiTemplate.Proofs.Template.Correspondence
import TuiTemplate.Proofs.Template.Formatting

set_option autoImplicit false

namespace TuiTemplate

open Text

def IsNote (raw : String) : Prop := trim raw = "" ∨ ['/', '/'] <+: (trim raw).toList

theorem Line.ofRaw?_eq_none_iff {raw : String} {number : Nat} :
    ofRaw? raw number = none ↔ IsNote raw := by
  rw [ofRaw?, ite_eq_left_iff, IsNote, ← String.toList_eq_nil_iff]
  simp only [reduceCtorEq, imp_false, Bool.not_eq_true, isIgnored_eq_false_iff, ne_eq, not_and_or,
    not_not]

/-- Lines that a terminator joins are numbered as they stand. An empty line at the end is lost,
but it would not count. -/
theorem scan_intercalate {mark : String} (terminator : IsTerminator mark.toList)
    {lines : List String} (unbroken : ∀ line ∈ lines, Unbroken line.toList) :
    scan (mark.intercalate lines) = Line.significant 1 lines := by
  rw [scan]
  rcases splitLines_intercalate terminator unbroken with whole | short
  · rw [whole]
  · have empty : Line.ofRaw? "" (1 + (splitLines (mark.intercalate lines)).length) = none :=
      Line.ofRaw?_eq_none_iff.mpr (.inl rfl)
    conv_rhs => rw [← short]
    rw [Line.significant_append, Line.significant, empty]
    exact (List.append_nil _).symm

/-- A line of a template with notes: a line of the template without them, or a note that was put
in. -/
inductive Piece where
  | own (raw : String)
  | note (raw : String)
deriving DecidableEq, Repr

namespace Piece

def raw : Piece → String
  | own raw | note raw => raw

def own? : Piece → Option String
  | own raw => some raw
  | note _ => none

def ownLines (pieces : List Piece) : List String := pieces.filterMap own?

def allLines (pieces : List Piece) : List String := pieces.map raw

theorem ownLines_cons_own (raw : String) (rest : List Piece) :
    ownLines (own raw :: rest) = raw :: ownLines rest := rfl

theorem ownLines_cons_note (raw : String) (rest : List Piece) :
    ownLines (note raw :: rest) = ownLines rest := rfl

theorem allLines_cons (piece : Piece) (rest : List Piece) :
    allLines (piece :: rest) = piece.raw :: allLines rest := rfl

theorem ownLines_append (front back : List Piece) :
    ownLines (front ++ back) = ownLines front ++ ownLines back :=
  List.filterMap_append

/-- Whether a line has one number without the notes and another with them. -/
def Moved (pieces : List Piece) (old new : Nat) : Prop :=
  ∃ before raw after, pieces = before ++ own raw :: after ∧
    old = (ownLines before).length + 1 ∧ new = before.length + 1

/-- Lines keep their order. -/
theorem Moved.lt_of_lt {pieces : List Piece} {old new other otherNew : Nat}
    (moved : Moved pieces old new) (otherMoved : Moved pieces other otherNew)
    (earlier : new < otherNew) : old < other := by
  obtain ⟨before, raw, after, whole, rfl, rfl⟩ := moved
  obtain ⟨others, otherRaw, otherAfter, rfl, rfl, rfl⟩ := otherMoved
  have first : before ++ [own raw] <+: others ++ own otherRaw :: otherAfter :=
    ⟨after, by rw [List.append_assoc, List.singleton_append, whole]⟩
  have longer : (before ++ [own raw]).length ≤ others.length := by
    rw [List.length_append, List.length_singleton]
    omega
  have begins : before ++ [own raw] <+: others :=
    List.prefix_of_prefix_length_le first (List.prefix_append _ _) longer
  obtain ⟨between, rfl⟩ := begins
  rw [ownLines_append, ownLines_append, List.length_append, List.length_append]
  change _ < _ + 1 + _ + 1
  omega

/-- The new number follows from the old one. -/
theorem Moved.unique {pieces : List Piece} {old new other : Nat} (moved : Moved pieces old new)
    (otherMoved : Moved pieces old other) : other = new := by
  rcases Nat.lt_trichotomy other new with earlier | same | later
  · exact absurd (otherMoved.lt_of_lt moved earlier) (Nat.lt_irrefl _)
  · exact same
  · exact absurd (moved.lt_of_lt otherMoved later) (Nat.lt_irrefl _)

theorem significant_matches {pieces before rest : List Piece} (whole : pieces = before ++ rest)
    (notes : ∀ raw, note raw ∈ pieces → IsNote raw) :
    List.Forall₂ (Line.Matches (.renumbering (Moved pieces)))
      (Line.significant ((ownLines before).length + 1) (ownLines rest))
      (Line.significant (before.length + 1) (allLines rest)) := by
  -- The pieces before fix both numbers, so they grow while the rest is read.
  induction rest generalizing before with
  | nil => exact .nil
  | cons piece rest ih =>
      have longer : pieces = (before ++ [piece]) ++ rest := by
        rw [whole, List.append_assoc, List.singleton_append]
      have later := ih longer
      rw [ownLines_append, List.length_append, List.length_append] at later
      cases piece with
      | note raw =>
          have ignored : Line.ofRaw? raw (before.length + 1) = none :=
            Line.ofRaw?_eq_none_iff.mpr (notes raw (by simp [whole]))
          rw [allLines_cons, ownLines_cons_note, Line.significant, Piece.raw, ignored]
          exact later
      | own raw =>
          have moved : Moved pieces ((ownLines before).length + 1) (before.length + 1) :=
            ⟨before, raw, rest, whole, rfl, rfl⟩
          rw [allLines_cons, ownLines_cons_own, Line.significant, Line.significant, Piece.raw,
            Line.ofRaw?, Line.ofRaw?]
          refine List.rel_append ?_ later
          split
          · exact .nil
          · exact .cons ⟨rfl, moved, rfl, rfl, fun _ => rfl, fun _ => rfl⟩ .nil

/-- Whether two outcomes are the same tree, or errors that differ in nothing but the number of the
line, which is that of the same line in either text. -/
inductive SameOutcome (pieces : List Piece) :
    Except CompileError Node → Except CompileError Node → Prop where
  | tree (tree : Node) : SameOutcome pieces (.ok tree) (.ok tree)
  | factory (fault : Fault) : SameOutcome pieces (.error (.factory fault)) (.error (.factory fault))
  | noRoot : SameOutcome pieces (.error (.malformed .noRoot)) (.error (.malformed .noRoot))
  | located {old new : Nat} {error other : TemplateError} (complaint : String)
      (moved : Moved pieces old new) (line : error.line = some (old : Int))
      (same : other = { error with line := some (new : Int) })
      (message : error.message = "Line " ++ toString old ++ ": " ++ complaint)
      (otherMessage : other.message = "Line " ++ toString new ++ ": " ++ complaint) :
      SameOutcome pieces (.error (.malformed error)) (.error (.malformed other))

theorem sameOutcome_of_outcome {pieces : List Piece} {registry : Registry}
    {outcome other : Except CompileError Node}
    (corresponds : (Correspondence.renumbering (Moved pieces)).Outcome registry outcome other) :
    SameOutcome pieces outcome other := by
  cases corresponds with
  | tree renamed =>
      rw [renamed.eq_of_id]
      exact .tree _
  | error same =>
      cases same with
      | noRoot => exact .noRoot
      | factory fault => exact .factory fault
      | located fault moved quoted =>
          obtain rfl : _ = _ := quoted
          have kept : fault.rename (Correspondence.renumbering (Moved pieces)).rename = fault :=
            fault.rename_id
          rw [kept]
          exact .located (TemplateError.complaint ⟨none, _, fault⟩) moved rfl rfl rfl rfl

/-- Comments, blank lines and the terminator of the lines do not matter: with notes in any place a
template comes to the same tree, or to an error that differs in nothing but the number of the
line. -/
theorem compile_notes (registry : Registry) {pieces : List Piece} {mark : String}
    (unbroken : ∀ piece ∈ pieces, Unbroken piece.raw.toList)
    (notes : ∀ raw, note raw ∈ pieces → IsNote raw) (terminator : IsTerminator mark.toList) :
    SameOutcome pieces (compile registry ("\n".intercalate (ownLines pieces)))
      (compile registry (mark.intercalate (allLines pieces))) := by
  have allUnbroken : ∀ line ∈ allLines pieces, Unbroken line.toList := by
    intro line inside
    obtain ⟨piece, member, rfl⟩ := List.mem_map.mp inside
    exact unbroken piece member
  have ownUnbroken : ∀ line ∈ ownLines pieces, Unbroken line.toList := by
    intro line inside
    obtain ⟨piece, member, is⟩ := List.mem_filterMap.mp inside
    cases piece with
    | own raw =>
        obtain rfl := Option.some.inj is
        exact unbroken _ member
    | note raw => cases is
  have agree : (Correspondence.renumbering (Moved pieces)).Agree registry registry
      (Line.significant 1 (ownLines pieces)) := fun _ _ _ => rfl
  have same := @significant_matches pieces [] pieces rfl notes
  have newline : IsTerminator "\n".toList := isTerminator_newline
  rw [compile, compile, scan_intercalate newline ownUnbroken,
    scan_intercalate terminator allUnbroken]
  exact sameOutcome_of_outcome (parse_corresponds agree same)

def notedPage : List Piece :=
  [note "// page", own "Layout:", note "\t", own "    oops", note ""]

theorem compile_ownLines_notedPage :
    compile .builtin ("\n".intercalate (ownLines notedPage)) =
      .error (.malformed ⟨some 2, some "    oops", .notInBlock⟩) := by
  have lines : scan ("\n".intercalate (ownLines notedPage)) =
      [⟨"Layout:", 0, 1, "Layout:"⟩, ⟨"oops", 4, 2, "    oops"⟩] := by
    decide +kernel
  have block : Reads .builtin layoutWidget indentStep false [⟨"oops", 4, 2, "    oops"⟩]
      (.error (.malformed ⟨some 2, some "    oops", .notInBlock⟩)) [] :=
    .stray rfl (by decide) (by decide)
  have reads : ReadsDocument .builtin
      [⟨"Layout:", 0, 1, "Layout:"⟩, ⟨"oops", 4, 2, "    oops"⟩] _ [] :=
    .brokenRoot rfl (by decide) rfl rfl block
  rw [compile, lines]
  exact (parse_eq_of_readsDocument reads).1

/-- The second line of the layout is the fourth of the text with notes. -/
theorem compile_notes_page :
    compile .builtin ("\r\n".intercalate (allLines notedPage)) =
      .error (.malformed ⟨some 4, some "    oops", .notInBlock⟩) := by
  have unbroken : ∀ piece ∈ notedPage, Unbroken piece.raw.toList := by decide
  have notes : ∀ raw, note raw ∈ notedPage → IsNote raw := by
    intro raw inside
    rw [← @Line.ofRaw?_eq_none_iff raw 0]
    simp only [notedPage, List.mem_cons, Piece.note.injEq, reduceCtorEq, List.not_mem_nil,
      false_or, or_false] at inside
    rcases inside with rfl | rfl | rfl <;> rfl
  have terminator : IsTerminator "\r\n".toList := .inl rfl
  have same := compile_notes .builtin unbroken notes terminator
  rw [compile_ownLines_notedPage] at same
  generalize compile .builtin ("\r\n".intercalate (allLines notedPage)) = noted at same ⊢
  cases same with
  | @located old new error other complaint moved line told message otherMessage =>
      have second : Moved notedPage 2 4 :=
        ⟨[note "// page", own "Layout:", note "\t"], "    oops", [note ""], rfl, rfl, rfl⟩
      have number := Option.some.inj line
      obtain rfl : old = 2 := by omega
      obtain rfl := second.unique moved
      rw [told]
      rfl

end Piece

end TuiTemplate
