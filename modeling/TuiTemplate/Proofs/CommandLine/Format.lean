import TuiTemplate.CommandLine.Session
import TuiTemplate.Proofs.Template.Formatting
import TuiTemplate.Proofs.Template.Source

set_option autoImplicit false

namespace TuiTemplate

open Text

def Effect.written? : Effect → Option (Path × String)
  | .write path text => some (path, text)
  | .print _ | .complain _ | .log _ | .preview _ _ _ => none

namespace Run

def written (run : Run) : List (Path × String) := run.effects.filterMap Effect.written?

theorem written_andThen {first : Run} (done : first.ending = .done) (second : Run) :
    (first.andThen second).written = first.written ++ second.written := by
  simp only [written, andThen, done, List.filterMap_append]

theorem written_logs (records : List LogRecord) : (logs records).written = [] := by
  rw [written, logs, List.filterMap_map]
  exact List.filterMap_eq_nil_iff.mpr fun _ _ => rfl

theorem written_shown (text : Except Markup.Error String) : (shown text).written = [] := by
  cases text <;> rfl

end Run

namespace Session

theorem written_print (s : Session) (lines : List String) : (s.print lines).written = [] := by
  induction lines with
  | nil => rfl
  | cons line rest ih =>
      change (Run.andThen (Run.shown _) (s.print rest)).written = []
      cases (Markup.shown line).map (printed s.screen.columns) with
      | error reason => rfl
      | ok text => rw [Run.written_andThen rfl, ih, Run.written_shown, List.append_nil]

/-- Formatting in place writes the canonical template of the tree and no other file. -/
theorem written_format {s : Session} {path : Path} {root : Node}
    (compiled : compileFile s.registry s.disk path = .ok root) :
    (s.perform (.format path true)).written = [(path, serialize root)] := by
  simp only [perform, withTemplate, compiled, ↓reduceIte]
  rw [Run.written_andThen rfl, Run.written_andThen rfl, Run.written_logs, written_print]
  rfl

end Session

def rowRegistry : Registry :=
  ⟨⟨[("Row", ⟨"Row", .ofFunction (layoutWidget.withExplicit ⟨[("direction", "horizontal")]⟩),
      true, ""⟩),
    ("Paragraph", ⟨"Paragraph", .ofClass paragraphWidget, false, ""⟩)]⟩⟩

theorem rowRegistry_makes {kind : String} {made : Node} (known : rowRegistry.Makes kind made) :
    made = layoutWidget.withExplicit ⟨[("direction", "horizontal")]⟩ ∨ made = paragraphWidget := by
  obtain ⟨entry, inside, built⟩ := known.exists_mem
  rcases List.mem_cons.mp inside with rfl | later
  · cases built
    exact .inl rfl
  · cases List.mem_singleton.mp later
    cases built
    exact .inr rfl

theorem rowRegistry_makesSettable : rowRegistry.MakesSettable := by
  have sets : Grammar.Sets "direction: horizontal" "direction" "horizontal" :=
    Grammar.sets_iff.mpr ⟨by decide, by decide⟩
  have scanned : ⟨"direction: horizontal", 0, 1, "direction: horizontal"⟩ ∈
      scan "direction: horizontal" := by decide +kernel
  constructor
  · intro kind made known
    rcases rowRegistry_makes known with rfl | rfl <;> rfl
  · intro kind made known
    rcases rowRegistry_makes known with rfl | rfl <;> decide
  · intro kind made known entry inside
    rcases rowRegistry_makes known with rfl | rfl
    · cases List.mem_singleton.mp inside
      exact ⟨_, _, scanned, sets, _, rfl⟩
    · cases inside

def turnedRow : Node :=
  ((layoutWidget.withKind "Row").withExplicit ⟨[("direction", "vertical")]⟩).withChildren
    [paragraphWidget.withExplicit ⟨[("text", "a: b")]⟩]

def turnedRowText : String :=
  "Row:\n// turned\n  \n    direction:vertical\n    Paragraph:\n        text: a: b"

theorem compile_turnedRow : compile rowRegistry turnedRowText = .ok turnedRow := by
  have lines : scan turnedRowText =
      [⟨"Row:", 0, 1, "Row:"⟩, ⟨"direction:vertical", 4, 4, "    direction:vertical"⟩,
       ⟨"Paragraph:", 4, 5, "    Paragraph:"⟩, ⟨"text: a: b", 8, 6, "        text: a: b"⟩] := by
    decide +kernel
  have row : Grammar.Declares "Row:" "Row" := ⟨"Row", rfl, by decide⟩
  have direction : Grammar.Sets "direction:vertical" "direction" "vertical" :=
    Grammar.sets_iff.mpr ⟨by decide, by decide⟩
  have leaf : Grammar.Declares "Paragraph:" "Paragraph" := ⟨"Paragraph", rfl, by decide⟩
  have text : Grammar.Sets "text: a: b" "text" "a: b" :=
    Grammar.sets_iff.mpr ⟨by decide, by decide⟩
  have leaves : Grammar.Widgets rowRegistry 1
      (⟨"Paragraph:", 4, 5, "    Paragraph:"⟩ ::
        ([⟨"text: a: b", 8, 6, "        text: a: b"⟩] ++ [] ++ [])) [_] :=
    .cons rfl leaf ⟨_, rfl, rfl⟩ (.cons rfl text rfl (.nil _)) (.nil 2) (.inl rfl) (.nil 1)
  have widgets : Grammar.Widgets rowRegistry 0
      (⟨"Row:", 0, 1, "Row:"⟩ :: ([⟨"direction:vertical", 4, 4, "    direction:vertical"⟩] ++
        [⟨"Paragraph:", 4, 5, "    Paragraph:"⟩, ⟨"text: a: b", 8, 6, "        text: a: b"⟩] ++
          [])) [_] :=
    .cons rfl row ⟨_, rfl, rfl⟩ (.cons rfl direction rfl (.nil _)) leaves (.inr rfl) (.nil 0)
  rw [compile, lines]
  exact Grammar.Document.parse_eq rowRegistry_makesSettable.childless ⟨widgets, rfl⟩

def rowSession (text : String) : Session :=
  ⟨rowRegistry, ⟨fun _ => .ok (text.toList.map fun c => UInt8.ofNat c.toNat)⟩, .empty, ⟨80, 24⟩⟩

/-- The canonical template of a tree that was compiled compiles to the same tree, so that a file
that is formatted keeps its meaning, and formatting it again writes the same text. -/
theorem format_of_compile {registry : Registry} (settable : registry.MakesSettable)
    {source : String} {tree : Node} (compiled : compile registry source = .ok tree) :
    compile registry (serialize tree) = .ok tree ∧
      ∀ (s : Session) (path : Path), s.registry = registry →
        loadTemplate s.disk path = .ok source →
        (s.perform (.format path true)).written = [(path, serialize tree)] ∧
        ∀ (after : Disk) (bytes : Bytes), after.read path = .ok bytes →
          decodeUtf8 bytes = .ok (serialize tree).toList →
          compileFile registry after path = .ok tree ∧
            ({ s with disk := after }.perform (.format path true)).written =
              [(path, serialize tree)] := by
  have again := compile_serialize settable compiled
  refine ⟨again, ?_⟩
  rintro s path rfl loaded
  refine ⟨Session.written_format (compileFile_eq_ok_of_loadTemplate loaded compiled), ?_⟩
  intro after bytes found decoded
  have reloaded : loadTemplate after path = .ok (serialize tree) := by
    refine loadTemplate_eq_ok_iff.mpr
      ⟨(loadTemplate_eq_ok_iff.mp loaded).1, bytes, _, found, decoded, ?_⟩
    have expressible := (expressible_invariant settable source).of_parse compiled
    rw [unifyNewlineChars_eq_self expressible.return_not_mem_serialize, String.ofList_toList]
  have recompiled := compileFile_eq_ok_of_loadTemplate reloaded again
  exact ⟨recompiled, Session.written_format (s := { s with disk := after }) recompiled⟩

/-- The file of a row is formatted twice. -/
theorem format_of_compile_row :
    compile rowRegistry (serialize turnedRow) = .ok turnedRow ∧
      ((rowSession turnedRowText).perform (.format ⟨"", ["row"]⟩ true)).written =
        [(⟨"", ["row"]⟩, serialize turnedRow)] ∧
      ((rowSession (serialize turnedRow)).perform (.format ⟨"", ["row"]⟩ true)).written =
        [(⟨"", ["row"]⟩, serialize turnedRow)] := by
  have loaded : loadTemplate (rowSession turnedRowText).disk ⟨"", ["row"]⟩ = .ok turnedRowText :=
    loadTemplate_eq_ok_iff.mpr
      ⟨by decide, _, turnedRowText.toList, rfl, by decide +kernel, by decide +kernel⟩
  obtain ⟨again, files⟩ := format_of_compile rowRegistry_makesSettable compile_turnedRow
  obtain ⟨first, later⟩ := files (rowSession turnedRowText) ⟨"", ["row"]⟩ rfl loaded
  exact ⟨again, first, (later (rowSession (serialize turnedRow)).disk _ rfl (by decide +kernel)).2⟩

end TuiTemplate
