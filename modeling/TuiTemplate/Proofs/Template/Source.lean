import Mathlib
import TuiTemplate.Proofs.Text.Lines
import TuiTemplate.Proofs.Text.Utf8
import TuiTemplate.Template.Source

set_option autoImplicit false

namespace TuiTemplate

open Text

/-- A template is loaded when its path can be looked up and leads to the bytes of a text. -/
theorem loadTemplate_eq_ok_iff {disk : Disk} {path : Path} {text : String} :
    loadTemplate disk path = .ok text ↔
      path.isWhole = true ∧ ∃ bytes chars, disk.read path = .ok bytes ∧
        decodeUtf8 bytes = .ok chars ∧ text = String.ofList (unifyNewlineChars chars) := by
  unfold loadTemplate
  cases whole : path.isWhole with
  | false => simp
  | true =>
      cases found : disk.read path with
      | error reason => cases reason <;> simp
      | ok bytes =>
          cases decoded : decodeUtf8 bytes with
          | error reason => simp [decoded]
          | ok chars => simp [decoded, eq_comm]

theorem compileFile_eq_ok_of_loadTemplate {registry : Registry} {disk : Disk} {path : Path}
    {source : String} {tree : Node} (loaded : loadTemplate disk path = .ok source)
    (compiled : compile registry source = .ok tree) :
    compileFile registry disk path = .ok tree := by
  rw [compileFile, loaded]
  exact congrArg (Except.mapError SourceError.template) compiled

/-- A path that was read from a name shows as some text, so that a failure can carry it. -/
theorem Path.text_ofString_ne_empty (name : String) : (Path.ofString name).text ≠ "" := by
  have named : ∀ part ∈ (Path.ofString name).names, part ≠ "" := by
    intro part inside
    have kept := (List.mem_filter.mp inside).2
    rintro rfl
    cases kept
  rw [text]
  split
  · decide
  · next shown =>
      intro empty
      obtain ⟨noRoot, noNames⟩ := String.append_eq_empty_iff.mp empty
      rw [← String.toList_eq_nil_iff, String.toList_intercalate] at noNames
      cases parts : (Path.ofString name).names with
      | nil => exact shown (by rw [noRoot, parts]; rfl)
      | cons first rest =>
          have filled : first.toList ≠ [] :=
            mt String.toList_eq_nil_iff.mp (named first (parts ▸ List.mem_cons_self))
          rw [parts] at noNames
          cases rest with
          | nil => exact filled (by simpa using noNames)
          | cons next after =>
              rw [List.map_cons, List.map_cons, List.intercalate_cons_cons] at noNames
              exact filled (List.append_eq_nil_iff.mp (List.append_eq_nil_iff.mp noNames).1).1

theorem compile_unified (registry : Registry) (text : String) :
    compile registry (String.ofList (unifyNewlineChars text.toList)) = compile registry text := by
  rw [compile, scan, splitLines, String.toList_ofList, linesOf_unifyNewlineChars]
  rfl

/-- A file with the bytes of a text gives what the text gives, the widget or the same error, however
its lines are broken. A file whose bytes are those of no text is reported with its path. -/
theorem compileFile_of_bytes (registry : Registry) {disk : Disk} {name : String} {bytes : Bytes}
    (whole : (Path.ofString name).isWhole = true)
    (found : disk.read (Path.ofString name) = .ok bytes) :
    (∀ text : String, text.toUTF8.data.toList = bytes →
      compileFile registry disk (Path.ofString name) =
        (compile registry text).mapError .template) ∧
    ((∀ text : String, text.toUTF8.data.toList ≠ bytes) →
      ∃ message, compileFile registry disk (Path.ofString name) =
        .error (.file (.failure
          ⟨.file message, [("path", .text (Path.ofString name).text)], false⟩))) := by
  constructor
  · rintro text rfl
    have loaded : loadTemplate disk (Path.ofString name) =
        .ok (String.ofList (unifyNewlineChars text.toList)) :=
      loadTemplate_eq_ok_iff.mpr ⟨whole, _, text.toList, found,
        decodeUtf8_eq_ok_iff.mpr (utf8Bytes_toList text).symm, rfl⟩
    rw [compileFile, loaded]
    exact congrArg (Except.mapError SourceError.template) (compile_unified registry text)
  · intro noText
    cases decoded : decodeUtf8 bytes with
    | ok chars =>
        have same := utf8Bytes_toList (String.ofList chars)
        rw [String.toList_ofList, ← decodeUtf8_eq_ok_iff.mp decoded] at same
        exact absurd same.symm (noText (String.ofList chars))
    | error reason =>
        have shown : (Path.ofString name).text.isEmpty = false := by
          rw [Bool.eq_false_iff, ne_eq, String.isEmpty_iff]
          exact Path.text_ofString_ne_empty name
        refine ⟨"Could not read template file: " ++ reason.message, ?_⟩
        rw [compileFile, loadTemplate, whole, found]
        simp [decoded, Failure.file, Failure.named, shown]

/-- A text whose lines end in each of the ways, a return before a pair among them. -/
def brokenLinesText : String :=
  "Layout:\r\r\n    direction: horizontal\u2028\n\r    Paragraph:\r        colour: red\r\n"

/-- The attribute that is unknown is reported for the same line, and a lone byte is reported with
the path. -/
theorem compileFile_of_bytes_broken :
    ((Path.ofString "t").isWhole = true ∧
      compileFile .builtin ⟨fun _ => .ok brokenLinesText.toUTF8.data.toList⟩ (Path.ofString "t") =
        (compile .builtin brokenLinesText).mapError .template) ∧
    ∃ message, compileFile .builtin ⟨fun _ => .ok [0xff]⟩ (Path.ofString "t") =
      .error (.file (.failure
        ⟨.file message, [("path", .text (Path.ofString "t").text)], false⟩)) := by
  have whole : (Path.ofString "t").isWhole = true := by cbv
  refine ⟨⟨whole, (compileFile_of_bytes .builtin whole rfl).1 brokenLinesText rfl⟩, ?_⟩
  refine (compileFile_of_bytes .builtin whole rfl).2 fun text same => ?_
  have decoded := decodeUtf8_eq_ok_iff.mpr ((utf8Bytes_toList text).trans same).symm
  cases decoded

end TuiTemplate
