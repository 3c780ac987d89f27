import Mathlib.Data.List.Basic
import Mathlib.Data.List.Induction
import TuiTemplate.Proofs.Render.Tiling
import TuiTemplate.Proofs.Template.Outcome
import TuiTemplate.Proofs.Widget.Composed
import TuiTemplate.Widget.Keys

set_option autoImplicit false

namespace TuiTemplate

/-- Items without their repetitions keep the order in which they are first met. -/
theorem pairwise_idxOf_eraseDups {α : Type} [BEq α] [LawfulBEq α] (items : List α) :
    items.eraseDups.Pairwise fun a b => items.idxOf a < items.idxOf b := by
  induction items using List.reverseRecOn with
  | nil => exact .nil
  | append_singleton items last ih =>
      have kept : items.eraseDups.Pairwise fun a b =>
          (items ++ [last]).idxOf a < (items ++ [last]).idxOf b := by
        refine ih.imp_of_mem fun first second before => ?_
        rwa [List.idxOf_append_of_mem (List.mem_eraseDups.mp first),
          List.idxOf_append_of_mem (List.mem_eraseDups.mp second)]
      rw [List.eraseDups_append]
      by_cases known : last ∈ items
      · have gone : [last].removeAll items = [] := by simp [List.removeAll, known]
        rwa [gone, List.eraseDups_nil, List.append_nil]
      · have new : ([last].removeAll items).eraseDups = [last] := by
          simp [List.removeAll, known, List.eraseDups_cons]
        rw [new]
        refine List.pairwise_append.mpr ⟨kept, List.pairwise_singleton _ _, ?_⟩
        intro item inside other isLast
        rw [List.mem_eraseDups] at inside
        rw [List.mem_singleton.mp isLast, List.idxOf_append_of_mem inside,
          List.idxOf_append_of_notMem known]
        exact Nat.lt_add_right _ (List.idxOf_lt_length_of_mem inside)

namespace Node

/-- The placeholders of a tree on a walk through it, each as often as it is met. -/
def placeholderOccurrences (n : Node) : List String := n.subtrees.flatMap ownPlaceholders

theorem placeholderKeys_eq (n : Node) : n.placeholderKeys = n.placeholderOccurrences.eraseDups := by
  rw [placeholderKeys, placeholderOccurrences, subtrees, List.flatMap_map]
  rfl

/-- Whether drawings on the canvas differ for some substitutions that differ in the key only. -/
def DependsOn (n : Node) (canvas : Canvas) (key : String) : Prop :=
  ∃ first second : Substitutions,
    first.get? key ≠ second.get? key ∧
      (∀ other, other ≠ key → first.get? other = second.get? other) ∧
      (render n first canvas).1.draws ≠ (render n second canvas).1.draws

namespace Composed

variable {n : Node}

theorem mem_placeholderOccurrences_iff (composed : n.Composed) {key : String} :
    key ∈ n.placeholderOccurrences ↔ ∃ leaf ∈ n.leaves, key ∈ placeholders leaf.literal := by
  rw [placeholderOccurrences, List.mem_flatMap]
  constructor
  · rintro ⟨inner, inside, own⟩
    have shape := composed.of_mem_subtrees inner inside
    cases leaf : inner.isLeaf with
    | false =>
        rw [shape.ownPlaceholders_eq_nil leaf] at own
        cases own
    | true =>
        rw [shape.ownPlaceholders_eq leaf] at own
        exact ⟨inner, List.mem_filter.mpr ⟨inside, leaf⟩, own⟩
  · rintro ⟨leaf, inside, listed⟩
    obtain ⟨member, isLeaf⟩ := List.mem_filter.mp inside
    refine ⟨leaf, member, ?_⟩
    rwa [(composed.of_mem_subtrees leaf member).ownPlaceholders_eq isLeaf]

theorem content?_of_mem_leaves (composed : n.Composed) (subs : Substitutions) :
    ∀ leaf ∈ n.leaves, leaf.content? subs = some (.ok (renderText leaf.literal subs)) := by
  intro leaf inside
  obtain ⟨member, isLeaf⟩ := List.mem_filter.mp inside
  exact (composed.of_mem_subtrees leaf member).content?_eq isLeaf subs

theorem speaks (composed : n.Composed) (subs : Substitutions) : n.Speaks subs :=
  fun leaf inside => ⟨_, composed.content?_of_mem_leaves subs leaf inside⟩

theorem draws_render (composed : n.Composed) (subs : Substitutions) (canvas : Canvas) :
    (render n subs canvas).1.draws = canvas.draws ++ n.draws subs canvas.area := by
  rw [render_canvas composed.oriented (composed.speaks subs)]
  rfl

/-- Two drawings are the same if all texts in them are. -/
theorem draws_eq_iff (composed : n.Composed) {first second : Substitutions} {region : Region} :
    n.draws first region = n.draws second region ↔
      ∀ leaf ∈ n.leaves, renderText leaf.literal first = renderText leaf.literal second := by
  have drawn (subs : Substitutions) : ∀ p ∈ n.placed region,
      p.draw subs = ⟨p.region, renderText p.leaf.literal subs⟩ := by
    intro p inside
    have leaf := composed.oriented.leaf_mem_leaves inside
    rw [PlacedLeaf.draw, drawnText_eq (composed.content?_of_mem_leaves subs p.leaf leaf)]
  rw [draws, draws, List.map_inj_left, ← composed.oriented.map_leaf_placed region,
    List.forall_mem_map]
  refine forall₂_congr fun p inside => ?_
  rw [drawn first p inside, drawn second p inside, Draw.mk.injEq]
  exact and_iff_right rfl

theorem dependsOn_iff (composed : n.Composed) (canvas : Canvas) (key : String) :
    n.DependsOn canvas key ↔ key ∈ n.placeholderOccurrences := by
  rw [composed.mem_placeholderOccurrences_iff]
  constructor
  · rintro ⟨first, second, -, agree, differ⟩
    rw [composed.draws_render, composed.draws_render] at differ
    by_contra unused
    refine differ (congrArg _ (composed.draws_eq_iff.mpr fun leaf inside => ?_))
    refine renderText_congr fun other listed => agree other ?_
    rintro rfl
    exact unused ⟨leaf, inside, listed⟩
  · rintro ⟨leaf, inside, listed⟩
    refine ⟨⟨[(key, "x")]⟩, ⟨[(key, "")]⟩, ?_, ?_, ?_⟩
    · simp [OrderedMap.get?, OrderedMap.lookupIn]
    · intro other different
      simp [OrderedMap.get?, OrderedMap.lookupIn, Ne.symm different]
    · rw [composed.draws_render, composed.draws_render]
      intro same
      exact renderText_single_ne listed
        (composed.draws_eq_iff.mp (List.append_cancel_left same) leaf inside)

end Composed

end Node

/-- The keys that are listed for a tree of layouts and paragraphs, such as a template declares
(`Node.Composed.of_compile`), are those that its drawings depend on, each once, in the order in
which a walk through the tree first meets them. -/
theorem placeholderKeys_exact {tree : Node} (composed : tree.Composed) :
    tree.placeholderKeys.Nodup ∧
    (tree.placeholderKeys.Pairwise fun first second =>
      tree.placeholderOccurrences.idxOf first < tree.placeholderOccurrences.idxOf second) ∧
    ∀ canvas key, key ∈ tree.placeholderKeys ↔ tree.DependsOn canvas key := by
  have ordered := pairwise_idxOf_eraseDups tree.placeholderOccurrences
  rw [tree.placeholderKeys_eq]
  refine ⟨?_, ordered, fun canvas key => ?_⟩
  · refine ordered.imp fun before same => ?_
    rw [same] at before
    exact Nat.lt_irrefl _ before
  · rw [List.mem_eraseDups, composed.dependsOn_iff]

def labelRegistry : Registry :=
  ⟨⟨[("Box", ⟨"Box", .ofClass layoutWidget, true, ""⟩),
    ("Label", ⟨"Label", .ofClass paragraphWidget, false, ""⟩)]⟩⟩

theorem labelRegistry_makes_composed (kind : String) (made : Node)
    (known : labelRegistry.Makes kind made) : made.Composed := by
  obtain ⟨entry, inside, built⟩ := known.exists_mem
  rcases List.mem_cons.mp inside with rfl | later
  · cases built
    exact .layout "Layout" (List.forall_mem_nil _) (List.forall_mem_nil _)
  · cases List.mem_singleton.mp later
    cases built
    exact .paragraph "Paragraph" none

def labelText : String :=
  "Box:\n    Label:\n        text: \"\x7b\x7bb\x7d\x7d\x7b\x7ba\x7d\x7d\"\n    Label:\n" ++
    "        text: \x7b\x7bc\x7d\x7d \x7b\x7bb\x7d\x7d"

def labelLines : List Line :=
  [⟨"Box:", 0, 1, "Box:"⟩, ⟨"Label:", 4, 2, "    Label:"⟩,
   ⟨"text: \"\x7b\x7bb\x7d\x7d\x7b\x7ba\x7d\x7d\"", 8, 3,
    "        text: \"\x7b\x7bb\x7d\x7d\x7b\x7ba\x7d\x7d\""⟩,
   ⟨"Label:", 4, 4, "    Label:"⟩,
   ⟨"text: \x7b\x7bc\x7d\x7d \x7b\x7bb\x7d\x7d", 8, 5,
    "        text: \x7b\x7bc\x7d\x7d \x7b\x7bb\x7d\x7d"⟩]

theorem scan_labelText : scan labelText = labelLines := by decide +kernel

def labelTree : Node :=
  (layoutWidget.withKind "Box").withChildren
    [(paragraphWidget.withKind "Label").withExplicit
      ⟨[("text", "\"\x7b\x7bb\x7d\x7d\x7b\x7ba\x7d\x7d\"")]⟩,
     (paragraphWidget.withKind "Label").withExplicit
      ⟨[("text", "\x7b\x7bc\x7d\x7d \x7b\x7bb\x7d\x7d")]⟩]

theorem compile_labelText : compile labelRegistry labelText = .ok labelTree := by
  have second : Reads labelRegistry (paragraphWidget.withKind "Label") 8 false (labelLines.drop 4)
      (.ok _) [] := .setting rfl (by decide) rfl (.finish _ _ _)
  have first : Reads labelRegistry (paragraphWidget.withKind "Label") 8 false (labelLines.drop 2)
      (.ok _) (labelLines.drop 3) := .setting rfl (by decide) rfl (.dedent (by decide) rfl)
  have reads : ReadsDocument labelRegistry labelLines (.ok labelTree) [] :=
    .root rfl (by decide) rfl rfl
      (.child rfl (by decide) rfl first rfl
        (.child rfl (by decide) rfl second rfl (.finish _ _ _)))
  rw [compile, scan_labelText]
  exact (parse_eq_of_readsDocument reads).1

theorem placeholderKeys_exact_labels :
    compile labelRegistry labelText = .ok labelTree ∧
      labelTree.placeholderKeys = ["b", "a", "c"] ∧
      labelTree.DependsOn (Canvas.blank 8 2) "b" ∧
      ¬ labelTree.DependsOn (Canvas.blank 8 2) "ba" := by
  obtain ⟨-, -, listed⟩ :=
    placeholderKeys_exact (.of_compile labelRegistry_makes_composed compile_labelText)
  have keys : labelTree.placeholderKeys = ["b", "a", "c"] := by decide +kernel
  refine ⟨compile_labelText, keys, ?_, ?_⟩
  · rw [← listed, keys]
    decide
  · rw [← listed, keys]
    decide

end TuiTemplate
