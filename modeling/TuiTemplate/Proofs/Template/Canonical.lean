import TuiTemplate.Proofs.Template.Faithful

set_option autoImplicit false

namespace TuiTemplate

open Text Grammar

namespace Line

def spaces (line : Line) : String := String.ofList (List.replicate line.indent ' ')

def key (line : Line) : String := (attributeParts line.text).1

def value (line : Line) : String := (attributeParts line.text).2

/-- The value of a key after lines that may set it again. -/
def valueAfter (key value : String) (lines : List Line) : String :=
  lines.foldl (fun value line => if line.key = key then line.value else value) value

theorem valueAfter_cons (key value : String) (line : Line) (rest : List Line) :
    valueAfter key value (line :: rest) =
      valueAfter key (if line.key = key then line.value else value) rest := by
  rw [valueAfter, valueAfter, List.foldl_cons]

/-- The lines of a template, each in its canonical form, after lines of the same block that have
set some keys. A line that sets a key again is left out, and the first line that sets it in the
block takes the last value. -/
def canonical (seen : List String) : List Line → List String
  | [] => []
  | line :: rest =>
    if isDeclaration line.text then
      (line.spaces ++ declaredKind line.text ++ ":") :: canonical [] rest
    else if line.key ∈ seen then canonical seen rest
    else
      (line.spaces ++ line.key ++ ": " ++
          valueAfter line.key line.value (rest.takeWhile fun later => isAttribute later.text)) ::
        canonical (seen ++ [line.key]) rest

/-- Whether lines begin with a declaration, if there are any. -/
def Opens (lines : List Line) : Prop :=
  ∀ line, lines.head? = some line → isDeclaration line.text = true

theorem takeWhile_isAttribute_append (first : List Line) {second : List Line}
    (opens : Opens second) :
    (first ++ second).takeWhile (fun line => isAttribute line.text) =
      first.takeWhile fun line => isAttribute line.text := by
  induction first with
  | nil =>
      cases second with
      | nil => rfl
      | cons line rest =>
          have declared := opens line rfl
          rw [List.nil_append, List.takeWhile_cons_of_neg]
          · rfl
          · simp [isAttribute, declared]
  | cons line rest ih => rw [List.cons_append, List.takeWhile_cons, List.takeWhile_cons, ih]

/-- Where a widget is declared, a block ends. -/
theorem canonical_append (seen : List String) (first : List Line) {second : List Line}
    (opens : Opens second) :
    canonical seen (first ++ second) = canonical seen first ++ canonical [] second := by
  induction first generalizing seen with
  | nil =>
      cases second with
      | nil => rfl
      | cons line rest => simp only [List.nil_append, canonical, opens line rfl, if_true]
  | cons line rest ih =>
      rw [List.cons_append, canonical, canonical, takeWhile_isAttribute_append rest opens]
      split
      · rw [ih, List.cons_append]
      · split
        · rw [ih]
        · simp only [ih, List.cons_append]

end Line

namespace Grammar

theorem Settings.takeWhile_eq {indent : Nat} {node filled : Node} {lines : List Line}
    (settings : Settings indent node lines filled) :
    lines.takeWhile (fun line => isAttribute line.text) = lines := by
  induction settings with
  | nil node => rfl
  | cons level sets accepted later ih =>
      rw [List.takeWhile_cons, if_pos (sets_iff.mp sets).1, ih]

/-- The attributes that were set before keep their places, and new ones follow in the order of the
lines that set them first. -/
theorem Settings.map_entries {indent : Nat} {node filled : Node} {lines : List Line}
    (settings : Settings indent node lines filled) (distinct : node.explicit.keys.Nodup) :
    (filled.explicit.entries.map fun entry =>
        String.ofList (List.replicate indent ' ') ++ entry.1 ++ ": " ++ entry.2) =
      (node.explicit.entries.map fun entry =>
        String.ofList (List.replicate indent ' ') ++ entry.1 ++ ": " ++
          Line.valueAfter entry.1 entry.2 lines) ++
        Line.canonical node.explicit.keys lines := by
  induction settings with
  | nil node => simp [Line.valueAfter, Line.canonical]
  | @cons node next filled line rest key value level sets accepted later ih =>
      obtain ⟨isSetting, parts⟩ := sets_iff.mp sets
      obtain ⟨-, rfl⟩ := Node.acceptAttribute_eq_ok_iff.mp accepted
      obtain rfl : line.key = key := congrArg Prod.fst parts
      obtain rfl : line.value = value := congrArg Prod.snd parts
      have notDeclared := isDeclaration_eq_false_of_isAttribute isSetting
      have below := ih (by
        rw [Node.explicit_withExplicit]
        exact OrderedMap.nodup_keys_insert distinct line.key line.value)
      rw [Node.explicit_withExplicit, OrderedMap.keys_insert] at below
      rw [below, Line.canonical, notDeclared, if_neg Bool.false_ne_true, ← level]
      by_cases known : line.key ∈ node.explicit.keys
      · have replaced : (node.explicit.insert line.key line.value).entries = _ :=
          OrderedMap.insertIn_of_mem line.value distinct known
        simp only [if_pos known, replaced, List.map_map, Function.comp_def, Line.valueAfter_cons]
      · have added : (node.explicit.insert line.key line.value).entries = _ :=
          OrderedMap.insertIn_of_not_mem line.value known
        have kept : ∀ entry ∈ node.explicit.entries,
            Line.valueAfter entry.1 entry.2 (line :: rest) =
              Line.valueAfter entry.1 entry.2 rest := by
          intro entry inside
          have different : line.key ≠ entry.1 := fun same =>
            known (same ▸ List.mem_map_of_mem inside)
          rw [Line.valueAfter_cons, if_neg different]
        rw [if_neg known, if_neg known, added, later.takeWhile_eq, List.map_append,
          List.map_singleton, List.append_assoc, List.singleton_append, Line.spaces]
        refine congrArg (· ++ _) (List.map_congr_left fun entry inside => ?_)
        rw [kept entry inside]

theorem Widgets.opens {registry : Registry} {depth : Nat} {lines : List Line}
    {nodes : List Node} (widgets : Widgets registry depth lines nodes) : Line.Opens lines := by
  intro line first
  cases widgets with
  | nil => cases first
  | cons level declares known attributes nested holds later =>
      cases first
      exact (declares_iff.mp declares).1

theorem Settings.children_withChildren {registry : Registry} (fresh : registry.MakesFresh)
    {kind : String} {made filled : Node} {indent : Nat} {lines : List Line} {children : List Node}
    (known : registry.Makes kind made)
    (settings : Settings indent (made.withKind kind) lines filled)
    (holds : children = [] ∨ filled.isContainer = true) :
    (filled.withChildren children).children = children := by
  have empty : filled.children = [] := by
    rw [settings.children_eq, Node.children_withKind, fresh.childless kind made known]
  rcases holds with rfl | container
  · rw [← empty, Node.withChildren_children]
  · exact Node.children_withChildren container children

/-- The lines that declare a fresh widget and set its attributes, as they are written for it. -/
theorem Settings.declarationLines_eq {registry : Registry}
    (bare : ∀ kind made, registry.Makes kind made → made.explicit = {})
    {depth : Nat} {line : Line} {kind : String} {made filled : Node} {settings : List Line}
    (level : line.indent = indentStep * depth) (declares : Declares line.text kind)
    (known : registry.Makes kind made)
    (attributes : Settings (indentStep * (depth + 1)) (made.withKind kind) settings filled) :
    declarationLines depth filled.head =
      (line.spaces ++ declaredKind line.text ++ ":") :: Line.canonical [] settings := by
  have unset : (made.withKind kind).explicit = {} := by
    rw [Node.explicit_withKind, bare kind made known]
  have written := attributes.map_entries (by rw [unset]; exact List.nodup_nil)
  have named : filled.kind = declaredKind line.text := by
    rw [attributes.kind_eq, Node.kind_withKind, (declares_iff.mp declares).2]
  have none : (made.withKind kind).explicit.entries = [] := by rw [unset]
  have keys : (made.withKind kind).explicit.keys = [] := by rw [unset]; rfl
  rw [none, keys, List.map_nil, List.nil_append, ← indentation] at written
  rw [declarationLines, ← Node.kind, ← Node.explicit, written, Line.spaces, level, named,
    ← indentation]

/-- What is written for widgets are the lines they were read from, in their canonical form. -/
theorem Widgets.canonical_eq {registry : Registry} (fresh : registry.MakesFresh)
    (bare : ∀ kind made, registry.Makes kind made → made.explicit = {}) {depth : Nat}
    {lines : List Line} {nodes : List Node} (widgets : Widgets registry depth lines nodes) :
    Line.canonical [] lines = nodes.flatMap (Node.linesFrom depth) := by
  induction widgets with
  | nil depth => rfl
  | @cons depth line settings below rest kind made filled children siblings level declares known
      attributes nested holds later nestedIh laterIh =>
      have written := attributes.declarationLines_eq bare level declares known
      rw [Line.canonical, if_pos (declares_iff.mp declares).1,
        Line.canonical_append [] _ later.opens, Line.canonical_append [] _ nested.opens,
        nestedIh, laterIh, List.flatMap_cons, Node.linesFrom_eq, Node.head_withChildren, written,
        attributes.children_withChildren fresh known holds]
      simp only [List.cons_append, List.append_assoc]

end Grammar

/-- What is written for a tree that was read are the lines of its template, each in its canonical
form, in their order. -/
theorem serialize_canonical {registry : Registry} (fresh : registry.MakesFresh)
    (bare : ∀ kind made, registry.Makes kind made → made.explicit = {}) {source : String}
    {tree : Node} (compiled : compile registry source = .ok tree) :
    serialize tree = "\n".intercalate (Line.canonical [] (scan source)) ++ "\n" ∧
      splitLines (serialize tree) = Line.canonical [] (scan source) := by
  have expressible := expressible_of_compile (fresh.makesSettable bare) compiled
  have written : Line.canonical [] (scan source) = tree.linesFrom 0 := by
    rw [(Document.of_parse fresh compiled).1.canonical_eq fresh bare, List.flatMap_singleton]
  have spelled : serialize tree = "\n".intercalate (tree.linesFrom 0) ++ "\n" := rfl
  rw [written, spelled]
  exact ⟨rfl, splitLines_intercalate_newline (tree.linesFrom_ne_nil 0) (expressible.unbroken 0)⟩

def untidyText : String :=
  "Layout :\n  // a note\n    direction:horizontal\n\n    direction : vertical\n" ++
    "    Paragraph:\n        text :  a: b"

/-- A comment, an empty line, a value that is set again, and blanks around names are gone. -/
theorem serialize_canonical_untidy :
    ∃ tree, compile .builtin untidyText = .ok tree ∧
      splitLines (serialize tree) =
        ["Layout:", "    direction: vertical", "    Paragraph:", "        text: a: b"] := by
  have lines : scan untidyText =
      [⟨"Layout :", 0, 1, "Layout :"⟩, ⟨"direction:horizontal", 4, 3, "    direction:horizontal"⟩,
       ⟨"direction : vertical", 4, 5, "    direction : vertical"⟩,
       ⟨"Paragraph:", 4, 6, "    Paragraph:"⟩,
       ⟨"text :  a: b", 8, 7, "        text :  a: b"⟩] := by
    decide +kernel
  have layout : Declares "Layout :" "Layout" := ⟨"Layout ", rfl, by decide⟩
  have first : Sets "direction:horizontal" "direction" "horizontal" :=
    sets_iff.mpr ⟨by decide, by decide⟩
  have second : Sets "direction : vertical" "direction" "vertical" :=
    sets_iff.mpr ⟨by decide, by decide⟩
  have leaf : Declares "Paragraph:" "Paragraph" := ⟨"Paragraph", rfl, by decide⟩
  have text : Sets "text :  a: b" "text" "a: b" := sets_iff.mpr ⟨by decide, by decide⟩
  have leaves : Widgets .builtin 1
      (⟨"Paragraph:", 4, 6, "    Paragraph:"⟩ ::
        ([⟨"text :  a: b", 8, 7, "        text :  a: b"⟩] ++ [] ++ [])) [_] :=
    .cons rfl leaf ⟨_, rfl, rfl⟩ (.cons rfl text rfl (.nil _)) (.nil 2) (.inl rfl) (.nil 1)
  have widgets : Widgets .builtin 0
      (⟨"Layout :", 0, 1, "Layout :"⟩ ::
        ([⟨"direction:horizontal", 4, 3, "    direction:horizontal"⟩,
          ⟨"direction : vertical", 4, 5, "    direction : vertical"⟩] ++
          [⟨"Paragraph:", 4, 6, "    Paragraph:"⟩,
           ⟨"text :  a: b", 8, 7, "        text :  a: b"⟩] ++ [])) [_] :=
    .cons rfl layout ⟨_, rfl, rfl⟩ (.cons rfl first rfl (.cons rfl second rfl (.nil _))) leaves
      (.inr rfl) (.nil 0)
  have compiled : compile .builtin untidyText =
      .ok ((layoutWidget.withExplicit ⟨[("direction", "vertical")]⟩).withChildren
        [paragraphWidget.withExplicit ⟨[("text", "a: b")]⟩]) := by
    rw [compile, lines]
    exact Document.parse_eq Registry.builtin_makesFresh.childless ⟨widgets, rfl⟩
  refine ⟨_, compiled, ?_⟩
  rw [(serialize_canonical Registry.builtin_makesFresh Registry.builtin_makes_bare compiled).2, lines]
  decide +kernel

end TuiTemplate
