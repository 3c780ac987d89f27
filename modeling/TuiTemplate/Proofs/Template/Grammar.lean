import TuiTemplate.Proofs.Widget.Node
import TuiTemplate.Template.Line

set_option autoImplicit false

namespace TuiTemplate

open Text

namespace Grammar

/-- A text that ends with a colon names what stands before it, without blanks around. -/
def Declares (text kind : String) : Prop :=
  ∃ name : String, text = name ++ ":" ∧ kind = trim name

/-- A text with a colon that does not end with one gives what stands before the first colon the
value that stands after it, both without blanks around. -/
def Sets (text key value : String) : Prop :=
  (∃ before after : String,
    text = before ++ ":" ++ after ∧ ':' ∉ before.toList ∧ key = trim before ∧
      value = trim after) ∧
  ¬ ∃ name : String, text = name ++ ":"

/-- Lines at one indent set attributes of the first widget one after another and leave the
second. -/
inductive Settings (indent : Nat) : Node → List Line → Node → Prop where
  | nil (node : Node) : Settings indent node [] node
  | cons {node next filled : Node} {line : Line} {rest : List Line} {key value : String}
      (level : line.indent = indent) (sets : Sets line.text key value)
      (accepted : node.acceptAttribute key value (some line.number) = .ok next)
      (later : Settings indent next rest filled) :
      Settings indent node (line :: rest) filled

/-- The lines of widgets at some depth, one widget after another. Each has its declaration, then
its attributes one level deeper, and then its children, if it is a container. -/
inductive Widgets (registry : Registry) : Nat → List Line → List Node → Prop where
  | nil (depth : Nat) : Widgets registry depth [] []
  | cons {depth : Nat} {line : Line} {settings below rest : List Line} {kind : String}
      {made filled : Node} {children siblings : List Node}
      (level : line.indent = indentStep * depth) (declares : Declares line.text kind)
      (known : registry.Makes kind made)
      (attributes : Settings (indentStep * (depth + 1)) (made.withKind kind) settings filled)
      (nested : Widgets registry (depth + 1) below children)
      (holds : children = [] ∨ filled.isContainer = true)
      (later : Widgets registry depth rest siblings) :
      Widgets registry depth (line :: (settings ++ below ++ rest))
        (filled.withChildren children :: siblings)

/-- A document is one widget on the top level, of a kind that is registered for containers. -/
def Document (registry : Registry) (lines : List Line) (tree : Node) : Prop :=
  Widgets registry 0 lines [tree] ∧ registry.isContainer tree.kind = true

theorem Widgets.append {registry : Registry} {depth : Nat} {first second : List Line}
    {nodes others : List Node} (front : Widgets registry depth first nodes)
    (back : Widgets registry depth second others) :
    Widgets registry depth (first ++ second) (nodes ++ others) := by
  induction front with
  | nil depth => exact back
  | cons level declares known attributes nested holds later nestedIh laterIh =>
      have longer := Widgets.cons level declares known attributes nested holds (laterIh back)
      simpa only [List.cons_append, List.append_assoc] using longer

theorem declares_iff {text kind : String} :
    Declares text kind ↔ isDeclaration text = true ∧ declaredKind text = kind := by
  constructor
  · rintro ⟨name, rfl, rfl⟩
    simp [isDeclaration, declaredKind, trim]
  · rintro ⟨ends, rfl⟩
    simp only [isDeclaration, beq_iff_eq, List.getLast?_eq_some_iff] at ends
    obtain ⟨name, spelled⟩ := ends
    refine ⟨String.ofList name, ?_, ?_⟩
    · apply String.ext
      simp [spelled]
    · simp [declaredKind, trim, spelled]

theorem exists_append_colon_iff {text : String} :
    (∃ name : String, text = name ++ ":") ↔ isDeclaration text = true := by
  constructor
  · rintro ⟨name, spelled⟩
    exact (declares_iff.mp ⟨name, spelled, rfl⟩).1
  · intro ends
    obtain ⟨name, spelled, -⟩ := declares_iff.mpr ⟨ends, rfl⟩
    exact ⟨name, spelled⟩

theorem attributeParts_append_colon {before : String} (after : String)
    (first : ':' ∉ before.toList) :
    attributeParts (before ++ ":" ++ after) = (trim before, trim after) := by
  have plain : ∀ c ∈ before.toList, decide (c ≠ ':') = true := by
    intro c inside
    exact decide_eq_true fun colon => first (colon ▸ inside)
  have front : (before.toList ++ ':' :: after.toList).takeWhile (· ≠ ':') = before.toList := by
    rw [List.takeWhile_append_of_pos plain]
    simp
  have back : (before.toList ++ ':' :: after.toList).dropWhile (· ≠ ':') =
      ':' :: after.toList := by
    rw [List.dropWhile_append_of_pos plain]
    simp
  have spelled : (before ++ ":" ++ after).toList = before.toList ++ ':' :: after.toList := by
    simp
  simp only [attributeParts, spelled, front, back, List.drop_succ_cons, List.drop_zero, trim]

theorem sets_iff {text key value : String} :
    Sets text key value ↔ isAttribute text = true ∧ attributeParts text = (key, value) := by
  simp only [Sets, exists_append_colon_iff, isAttribute, Bool.and_eq_true, Bool.not_eq_true',
    Bool.not_eq_true, List.contains_iff_mem]
  constructor
  · rintro ⟨⟨before, after, rfl, first, rfl, rfl⟩, noDeclaration⟩
    exact ⟨⟨by simp, noDeclaration⟩, attributeParts_append_colon after first⟩
  · rintro ⟨⟨colon, noDeclaration⟩, parts⟩
    obtain ⟨before, after, spelled, first⟩ := List.eq_append_cons_of_mem colon
    have joined : text = String.ofList before ++ ":" ++ String.ofList after := by
      apply String.ext
      simp [spelled]
    have absent : ':' ∉ (String.ofList before).toList := by simpa using first
    rw [joined, attributeParts_append_colon _ absent, Prod.mk.injEq] at parts
    exact ⟨⟨_, _, joined, absent, parts.1.symm, parts.2.symm⟩, noDeclaration⟩

end Grammar

end TuiTemplate
