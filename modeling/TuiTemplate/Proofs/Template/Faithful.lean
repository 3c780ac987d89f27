import TuiTemplate.Proofs.Template.Formatting
import TuiTemplate.Proofs.Widget.Builtin

set_option autoImplicit false

namespace TuiTemplate

open Text

section registry

variable {registry : Registry}

/-- A template spells every tree that is read from it. -/
theorem expressible_of_compile (settable : registry.MakesSettable) {source : String} {tree : Node}
    (compiled : compile registry source = .ok tree) : Expressible registry tree :=
  (expressible_invariant settable source).of_parse compiled

/-- What is written for a tree is read as a tree like it if each of its widgets can be spelled,
and only then. -/
theorem exists_alike_compile_iff (settable : registry.MakesSettable) {tree : Node}
    (grown : tree.Grown registry.Resolves) (root : registry.isContainer tree.kind = true) :
    (∃ read, compile registry (serialize tree) = .ok read ∧ read.Alike tree) ↔
      ∀ inner ∈ tree.subtrees, inner.IsSpelled := by
  constructor
  · rintro ⟨read, compiled, alike⟩
    exact alike.forall_subtrees
      (P := fun kind explicit => IsName kind ∧ ∀ entry ∈ explicit.entries, IsSetting entry.1 entry.2)
      (expressible_iff.mp (expressible_of_compile settable compiled)).2
  · intro spelled
    have expressible : Expressible registry tree :=
      expressible_iff.mpr ⟨grown.assembled settable.makesAllowed, spelled⟩
    exact ⟨tree, (expressible.document root).parse_eq settable.childless, tree.alike_refl⟩

end registry

theorem trim_eq_self_iff {text : String} : trim text = text ↔ Trimmed text.toList := by
  constructor
  · intro same
    have chars : trimChars text.toList = text.toList := by
      conv_rhs => rw [← same, trim, String.toList_ofList]
    rw [← chars]
    exact trimmed_trimChars text.toList
  · intro trimmed
    rw [trim, trimChars_of_trimmed trimmed, String.ofList_toList]

/-- Whether a text fits on the line of an attribute: it is not empty, has no blank at either end,
has no line break, and does not end like a declaration. -/
def Fits (text : String) : Prop :=
  text ≠ "" ∧ trim text = text ∧ Unbroken text.toList ∧ isDeclaration text = false

instance (text : String) : Decidable (Fits text) :=
  inferInstanceAs (Decidable (_ ∧ _ ∧ _ ∧ _))

theorem isValue_iff_fits {text : String} : IsValue text ↔ Fits text := by
  rw [Fits, trim_eq_self_iff, isDeclaration, beq_eq_false_iff_ne]
  constructor
  · rintro ⟨trimmed, unbroken, filled, noColon⟩
    exact ⟨filled, trimmed, unbroken, noColon⟩
  · rintro ⟨filled, trimmed, unbroken, noColon⟩
    exact ⟨trimmed, unbroken, filled, noColon⟩

/-- Whether every text that was set on a paragraph of the tree fits on its line. -/
def Node.TextsFit (tree : Node) : Prop :=
  ∀ inner ∈ tree.subtrees, inner.kind = "Paragraph" →
    ∀ text, inner.explicit.get? "text" = some text → Fits text

section builtin

theorem isName_of_mem_builtin {name : String}
    (inside : name ∈ ["Layout", "Paragraph", "direction", "text"]) :
    IsName name ∧ ':' ∉ name.toList := by
  have plain : trim name = name ∧ Unbroken name.toList ∧ ¬ ['/', '/'] <+: name.toList ∧
      ':' ∉ name.toList := by
    revert name
    decide
  exact ⟨⟨trim_eq_self_iff.mp plain.1, plain.2.1, plain.2.2.1⟩, plain.2.2.2⟩

theorem Direction.isSetting (direction : Direction) : IsSetting "direction" direction.name := by
  have fits : Fits direction.name := by
    cases direction <;> decide
  exact ⟨(isName_of_mem_builtin (by decide)).1, by decide, isValue_iff_fits.mpr fits⟩

/-- Of all that can be set on a built-in widget, only a text may be more than a line can spell. -/
theorem isSpelled_iff_of_assembly {made node : Node}
    (assembly : Assembly Registry.builtin made node) :
    node.IsSpelled ↔ (node.kind = "Paragraph" →
      ∀ text, node.explicit.get? "text" = some text → IsValue text) := by
  have name : IsName node.kind := by
    rcases Registry.builtin_makes_iff.mp assembly.known with ⟨kind, -⟩ | ⟨kind, -⟩ <;>
      rw [kind] <;> exact (isName_of_mem_builtin (by decide)).1
  rcases Registry.builtin_makes_iff.mp assembly.known with ⟨kind, rfl⟩ | ⟨kind, rfl⟩
  · refine ⟨fun _ paragraph => ?_, fun _ => ⟨name, fun entry inside => ?_⟩⟩
    · rw [kind] at paragraph
      exact absurd paragraph (by decide)
    · obtain ⟨key, listed⟩ := allows_layoutWidget_iff.mp (assembly.allowed entry inside)
      obtain ⟨direction, -, name⟩ := List.mem_map.mp listed
      rw [key, ← name]
      exact direction.isSetting
  · constructor
    · rintro ⟨-, settings⟩ - text found
      exact (settings _ (OrderedMap.mem_of_get?_eq_some found)).valued
    · intro values
      refine ⟨name, fun entry inside => ?_⟩
      have key := allows_paragraphWidget_iff.mp (assembly.allowed entry inside)
      have found : node.explicit.get? "text" = some entry.2 := by
        rw [OrderedMap.get?_eq_some_iff_mem assembly.distinct, ← key]
        exact inside
      rw [key]
      exact ⟨(isName_of_mem_builtin (by decide)).1, by decide, values kind _ found⟩

theorem Assembled.forall_isSpelled_iff {tree : Node} (assembled : Assembled Registry.builtin tree) :
    (∀ inner ∈ tree.subtrees, inner.IsSpelled) ↔ tree.TextsFit := by
  refine forall₂_congr fun inner inside => ?_
  obtain ⟨made, assembly⟩ := assembled.of_mem_subtrees inner inside
  rw [isSpelled_iff_of_assembly assembly]
  simp only [isValue_iff_fits]

theorem Registry.builtin_makes_bare (kind : String) (made : Node)
    (known : Registry.builtin.Makes kind made) : made.explicit = {} := by
  rcases Registry.builtin_makes known with rfl | rfl <;> rfl

theorem Registry.builtin_makesSettable : Registry.builtin.MakesSettable :=
  Registry.builtin_makesFresh.makesSettable Registry.builtin_makes_bare

end builtin

/-- What is written for a layout is read as a layout like it exactly if the texts in it fit on
their lines. In every layout that is read they do. -/
theorem serialize_faithful :
    (∀ tree : Node, tree.Grown Registry.builtin.Resolves → tree.kind = "Layout" →
      ((∃ read, compile .builtin (serialize tree) = .ok read ∧ read.Alike tree) ↔
        tree.TextsFit)) ∧
    ∀ source tree, compile .builtin source = .ok tree → tree.TextsFit := by
  have settable := Registry.builtin_makesSettable
  constructor
  · intro tree grown root
    have container : Registry.builtin.isContainer tree.kind = true := by
      rw [root]
      rfl
    rw [exists_alike_compile_iff settable grown container]
    exact (grown.assembled settable.makesAllowed).forall_isSpelled_iff
  · intro source tree compiled
    obtain ⟨assembled, spelled⟩ := expressible_iff.mp (expressible_of_compile settable compiled)
    exact assembled.forall_isSpelled_iff.mp spelled

def page (text : String) : Node :=
  (layoutWidget.withKind "Layout").withChildren
    [(paragraphWidget.withKind "Paragraph").withExplicit ⟨[("text", text)]⟩]

theorem page_grown (text : String) : (page text).Grown Registry.builtin.Resolves := by
  have layout : (layoutWidget.withKind "Layout").Grown Registry.builtin.Resolves :=
    .fresh ⟨"Layout", none, rfl⟩
  have paragraph : (paragraphWidget.withKind "Paragraph").Grown Registry.builtin.Resolves :=
    .fresh ⟨"Paragraph", none, rfl⟩
  have allowed : (paragraphWidget.withKind "Paragraph").acceptAttribute "text" text none =
      .ok ((paragraphWidget.withKind "Paragraph").withExplicit ⟨[("text", text)]⟩) := rfl
  have attached : (layoutWidget.withKind "Layout").acceptChild
      ((paragraphWidget.withKind "Paragraph").withExplicit ⟨[("text", text)]⟩) none =
      .ok (page text) := rfl
  exact layout.attach (paragraph.set allowed) attached

theorem page_textsFit_iff {text : String} : (page text).TextsFit ↔ Fits text := by
  constructor
  · intro fit
    exact fit _ (List.mem_cons_of_mem _ List.mem_cons_self) rfl text rfl
  · intro fits inner inside paragraph other found
    rcases List.mem_cons.mp inside with rfl | below
    · have same : "Layout" = "Paragraph" := paragraph
      exact absurd same (by decide)
    · cases List.mem_singleton.mp below
      cases found
      exact fits

/-- A colon inside a text is read back. A text of several lines is not, even if each of them is
an attribute. -/
theorem serialize_faithful_page :
    (∃ read, compile .builtin (serialize (page "a: b")) = .ok read ∧ read.Alike (page "a: b") ∧
      read.TextsFit) ∧
    ¬ ∃ read, compile .builtin (serialize (page "a\n        text: b")) = .ok read ∧
      read.Alike (page "a\n        text: b") := by
  constructor
  · obtain ⟨read, compiled, alike⟩ := (serialize_faithful.1 (page "a: b") (page_grown _) rfl).mpr
      (page_textsFit_iff.mpr (by decide))
    exact ⟨read, compiled, alike, serialize_faithful.2 _ _ compiled⟩
  · intro faithful
    have fits := (serialize_faithful.1 _ (page_grown _) rfl).mp faithful
    exact absurd (page_textsFit_iff.mp fits) (by decide)

end TuiTemplate
