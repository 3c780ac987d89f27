import TuiTemplate.Proofs.Render.Keys
import TuiTemplate.Proofs.Template.Faithful

set_option autoImplicit false

namespace TuiTemplate

open Text Grammar

def quoted (text : String) : String := "\"" ++ text ++ "\""

theorem toList_quoted (text : String) : (quoted text).toList = '"' :: (text.toList ++ ['"']) := by
  simp [quoted]

/-- Between quotes any text of one line fits on the line of an attribute. -/
theorem isValue_quoted {text : String} (unbroken : Unbroken text.toList) :
    IsValue (quoted text) := by
  have last : (quoted text).toList.getLast? = some '"' := by
    rw [toList_quoted, ← List.cons_append, List.getLast?_concat]
  refine ⟨⟨?_, ?_⟩, ?_, ?_, ?_⟩
  · intro c first
    rw [toList_quoted] at first
    cases first
    rfl
  · intro c ends
    rw [last] at ends
    cases ends
    rfl
  · rw [toList_quoted, ← List.singleton_append]
    exact (unbroken_singleton rfl).append (unbroken.append (unbroken_singleton rfl))
  · intro empty
    rw [empty] at last
    cases last
  · rw [last]
    decide

theorem stripQuotes_quoted (text : String) : stripQuotes (quoted text) = text := by
  have quote : IsQuote '"' := .inl rfl
  rw [stripQuotes, toList_quoted, Placeholder.stripQuoteChars_quoted quote, String.ofList_toList]

/-- A tree of layouts with texts in the places of its leaves. -/
inductive Sketch where
  | paragraph (text : String)
  | layout (direction? : Option Direction) (children : List Sketch)

namespace Sketch

/-- What holds of every text, and of a layout if it holds of its children, holds of every
sketch. -/
theorem children_induction {P : Sketch → Prop} (paragraph : ∀ text, P (.paragraph text))
    (layout : ∀ direction? children, (∀ child ∈ children, P child) →
      P (.layout direction? children)) : ∀ sketch, P sketch
  | .paragraph text => paragraph text
  | .layout direction? children =>
    layout direction? children fun child _ => children_induction paragraph layout child

mutual

def texts : Sketch → List String
  | .paragraph text => [text]
  | .layout _ children => textsAll children

def textsAll : List Sketch → List String
  | [] => []
  | child :: rest => texts child ++ textsAll rest

end

mutual

/-- The lines that declare a sketched tree at some depth and give each leaf its text in quotes. -/
def lines (depth : Nat) : Sketch → List String
  | .paragraph text =>
    [indentation depth ++ "Paragraph:",
      indentation (depth + 1) ++ "text: \"" ++ text ++ "\""]
  | .layout direction? children =>
    (indentation depth ++ "Layout:") ::
      (direction?.toList.map fun direction =>
        indentation (depth + 1) ++ "direction: " ++ direction.name) ++
      linesAll (depth + 1) children

def linesAll (depth : Nat) : List Sketch → List String
  | [] => []
  | child :: rest => lines depth child ++ linesAll depth rest

end

mutual

def node : Sketch → Node
  | .paragraph text =>
    (paragraphWidget.withKind "Paragraph").withExplicit ⟨[("text", quoted text)]⟩
  | .layout direction? children =>
    ((layoutWidget.withKind "Layout").withExplicit
      ⟨direction?.toList.map fun direction => ("direction", direction.name)⟩).withChildren
        (nodes children)

def nodes : List Sketch → List Node
  | [] => []
  | child :: rest => node child :: nodes rest

end

theorem textsAll_eq_flatMap (sketches : List Sketch) :
    textsAll sketches = sketches.flatMap texts := by
  induction sketches with
  | nil => rfl
  | cons child rest ih => rw [textsAll, List.flatMap_cons, ih]

theorem linesAll_eq_flatMap (depth : Nat) (sketches : List Sketch) :
    linesAll depth sketches = sketches.flatMap (lines depth) := by
  induction sketches with
  | nil => rfl
  | cons child rest ih => rw [linesAll, List.flatMap_cons, ih]

theorem nodes_eq_map (sketches : List Sketch) : nodes sketches = sketches.map node := by
  induction sketches with
  | nil => rfl
  | cons child rest ih => rw [nodes, List.map_cons, ih]

def template (sketch : Sketch) : String := "\n".intercalate (sketch.lines 0) ++ "\n"

theorem linesFrom_node (sketch : Sketch) (depth : Nat) :
    sketch.node.linesFrom depth = sketch.lines depth := by
  induction sketch using children_induction generalizing depth with
  | paragraph text =>
      have declared : indentation depth ++ "Paragraph" ++ ":" = indentation depth ++ "Paragraph:" :=
        String.append_assoc
      have set : indentation (depth + 1) ++ "text" ++ ": " ++ quoted text =
          indentation (depth + 1) ++ "text: \"" ++ text ++ "\"" := by
        simp only [quoted, String.append_assoc]
        rfl
      rw [Node.linesFrom_eq, lines, ← declared, ← set]
      rfl
  | layout direction? children ih =>
      have declared : indentation depth ++ "Layout" ++ ":" = indentation depth ++ "Layout:" :=
        String.append_assoc
      have below : (nodes children).flatMap (Node.linesFrom (depth + 1)) =
          linesAll (depth + 1) children := by
        rw [nodes_eq_map, linesAll_eq_flatMap, List.flatMap_map]
        exact List.flatMap_congr fun child inside => ih child inside (depth + 1)
      have turned : (direction?.toList.map fun direction => ("direction", direction.name)).map
          (fun entry => indentation (depth + 1) ++ entry.1 ++ ": " ++ entry.2) =
          direction?.toList.map fun direction =>
            indentation (depth + 1) ++ "direction: " ++ direction.name := by
        rw [List.map_map]
        refine List.map_congr_left fun direction _ => ?_
        simp only [Function.comp_apply, String.append_assoc]
        rfl
      rw [Node.linesFrom_eq, lines, ← declared, ← below, ← turned]
      rfl

theorem expressible_node {sketch : Sketch}
    (unbroken : ∀ text ∈ sketch.texts, Unbroken text.toList) :
    Expressible .builtin sketch.node := by
  induction sketch using children_induction with
  | paragraph text =>
      have name := isName_of_mem_builtin (show "Paragraph" ∈ _ by decide)
      have setting : IsSetting "text" (quoted text) :=
        ⟨(isName_of_mem_builtin (by decide)).1, by decide,
          isValue_quoted (unbroken text List.mem_cons_self)⟩
      have here : Expressed .builtin paragraphWidget (node (.paragraph text)) := by
        refine ⟨⟨_, rfl, rfl⟩, name.1, rfl,
          List.nodup_cons.mpr ⟨List.not_mem_nil, List.nodup_nil⟩, List.nil_prefix, ?_⟩
        exact List.forall_mem_singleton.mpr ⟨setting, allows_paragraphWidget_iff.mpr rfl⟩
      exact .intro here (List.forall_mem_nil _)
  | layout direction? children ih =>
      have name := isName_of_mem_builtin (show "Layout" ∈ _ by decide)
      have here : Expressed .builtin layoutWidget (node (.layout direction? children)) := by
        refine ⟨⟨_, rfl, rfl⟩, name.1, rfl, ?_, List.nil_prefix, ?_⟩
        · cases direction? with
          | none => exact List.nodup_nil
          | some direction => exact List.nodup_cons.mpr ⟨List.not_mem_nil, List.nodup_nil⟩
        · intro entry inside
          obtain ⟨direction, -, rfl⟩ := List.mem_map.mp inside
          refine ⟨direction.isSetting, allows_layoutWidget_iff.mpr ⟨rfl, ?_⟩⟩
          cases direction <;> decide
      refine .intro here fun child inside => ?_
      have below : child ∈ nodes children := inside
      rw [nodes_eq_map] at below
      obtain ⟨inner, member, rfl⟩ := List.mem_map.mp below
      rw [texts, textsAll_eq_flatMap, List.forall_mem_flatMap] at unbroken
      exact ih inner member (unbroken inner member)

theorem map_literal_leaves (sketch : Sketch) :
    sketch.node.leaves.map Node.literal = sketch.texts.map quoted := by
  induction sketch using children_induction with
  | paragraph text => rfl
  | layout direction? children ih =>
      have leaves : (node (.layout direction? children)).leaves =
          (nodes children).flatMap Node.leaves :=
        Node.leaves_container _ _ _
      rw [leaves, texts, nodes_eq_map, textsAll_eq_flatMap, List.flatMap_map, List.map_flatMap,
        List.map_flatMap]
      exact List.flatMap_congr ih

theorem compile_template {direction? : Option Direction} {children : List Sketch}
    (unbroken : ∀ text ∈ (layout direction? children).texts, Unbroken text.toList) :
    compile .builtin (layout direction? children).template =
      .ok (layout direction? children).node := by
  have written : (layout direction? children).template =
      serialize (layout direction? children).node := by
    rw [template, ← linesFrom_node]
    rfl
  rw [written]
  exact ((expressible_node unbroken).document rfl).parse_eq
    Registry.builtin_makesFresh.childless

end Sketch

theorem Registry.builtin_makes_composed (kind : String) (made : Node)
    (known : Registry.builtin.Makes kind made) : made.Composed := by
  rcases Registry.builtin_makes known with rfl | rfl
  · exact .layout "Layout" (List.forall_mem_nil _) (List.forall_mem_nil _)
  · exact .paragraph "Paragraph" none

/-- A template of layouts may give each leaf any text of one line in quotes. It compiles, and what
is drawn are the texts with their placeholders filled in, leaf by leaf, on any canvas. -/
theorem render_quoted (direction? : Option Direction) (children : List Sketch)
    (unbroken : ∀ text ∈ (Sketch.layout direction? children).texts, Unbroken text.toList) :
    ∃ root, compile .builtin (Sketch.layout direction? children).template = .ok root ∧
      ∀ (subs : Substitutions) (canvas : Canvas), ∃ after drawn,
        render root subs canvas = (after, none) ∧ after.draws = canvas.draws ++ drawn ∧
        drawn.map Draw.text =
          (Sketch.layout direction? children).texts.map fun text => interpolate text subs := by
  have compiled := Sketch.compile_template unbroken
  have composed := Node.Composed.of_compile Registry.builtin_makes_composed compiled
  refine ⟨_, compiled, fun subs canvas =>
    ⟨_, _, render_canvas composed.oriented (composed.speaks subs) canvas, rfl, ?_⟩⟩
  have told : ∀ leaf ∈ (Sketch.layout direction? children).node.leaves,
      leaf.drawnText subs = renderText leaf.literal subs := fun leaf inside =>
    Node.drawnText_eq (composed.content?_of_mem_leaves subs leaf inside)
  rw [composed.oriented.map_text_draws, List.map_congr_left told]
  have literals := congrArg (List.map fun text => renderText text subs)
    (Sketch.layout direction? children).map_literal_leaves
  simpa only [List.map_map, Function.comp_def, renderText, stripQuotes_quoted] using literals

/-- Colons, slashes, blanks and quotes at the ends of a text, and a text that is empty. -/
def oddSketch : Sketch :=
  .layout (some .horizontal)
    [.paragraph "", .layout none [.paragraph " a: b:", .paragraph "// \x7b\x7bk\x7d\x7d\""]]

theorem render_quoted_odd :
    ∃ root,
      compile .builtin
        ("Layout:\n    direction: horizontal\n    Paragraph:\n        text: \"\"\n    Layout:\n" ++
          "        Paragraph:\n            text: \" a: b:\"\n        Paragraph:\n" ++
          "            text: \"// \x7b\x7bk\x7d\x7d\"\"\n") = .ok root ∧
        ∃ after, render root ⟨[("k", "v")]⟩ (Canvas.blank 4 2) = (after, none) ∧
          after.draws.map Draw.text = ["", " a: b:", "// v\""] := by
  have unbroken : ∀ text ∈ oddSketch.texts, Unbroken text.toList := by decide +kernel
  obtain ⟨root, compiled, drawing⟩ := render_quoted _ _ unbroken
  obtain ⟨after, drawn, rendered, draws, texts⟩ := drawing ⟨[("k", "v")]⟩ (Canvas.blank 4 2)
  refine ⟨root, ?_, after, rendered, ?_⟩
  · rw [← compiled]
    exact congrArg _ (by decide +kernel)
  · have fresh : after.draws = drawn := draws
    rw [fresh, texts]
    decide +kernel

end TuiTemplate
