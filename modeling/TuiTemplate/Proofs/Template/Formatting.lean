import TuiTemplate.Proofs.Template.Expressible
import TuiTemplate.Proofs.Template.Parsing
import TuiTemplate.Proofs.Widget.Walk

set_option autoImplicit false

namespace TuiTemplate

open Text Grammar

/-- The lines of a template for a widget at some depth with all that is below it. -/
def Node.linesFrom (depth : Nat) (n : Node) : List String :=
  (n.walk depth).flatMap fun entry => declarationLines entry.1 entry.2.head

theorem Node.linesFrom_eq (depth : Nat) (n : Node) :
    n.linesFrom depth =
      declarationLines depth n.head ++ n.children.flatMap (linesFrom (depth + 1)) := by
  rw [linesFrom, walk_eq_cons, List.flatMap_cons, List.flatMap_assoc]
  rfl

theorem Node.linesFrom_ne_nil (depth : Nat) (n : Node) : n.linesFrom depth ≠ [] := by
  rw [linesFrom_eq]
  exact List.cons_ne_nil _ _

theorem Line.significant_append (first : Nat) (raws others : List String) :
    significant first (raws ++ others) =
      significant first raws ++ significant (first + raws.length) others := by
  induction raws generalizing first with
  | nil => rfl
  | cons raw rest ih =>
      rw [List.cons_append, significant, ih, significant, List.append_assoc, List.length_cons,
        Nat.add_right_comm, Nat.add_assoc first]

/-- A line that declares a widget or sets an attribute, as it is written and as it is read. -/
theorem Line.significant_indentation {text : String} (name : IsName text) (filled : text ≠ "")
    (depth first : Nat) (rest : List String) :
    significant first ((indentation depth ++ text) :: rest) =
      ⟨text, indentStep * depth, first, indentation depth ++ text⟩ ::
        significant (first + 1) rest := by
  rw [significant, ofRaw?_indentation name filled, Option.toList_some, List.singleton_append]

theorem IsSetting.line_ne_empty {key value : String} (setting : IsSetting key value) :
    key ++ ": " ++ value ≠ "" := by
  intro empty
  have last := setting.getLast?
  rw [empty] at last
  exact setting.valued.filled
    (String.toList_eq_nil_iff.mp (List.getLast?_eq_none_iff.mp last.symm))

theorem Expressed.holds {registry : Registry} {made node : Node}
    (expressed : Expressed registry made node) :
    node.children = [] ∨
      ((made.withKind node.kind).withExplicit node.explicit).isContainer = true := by
  cases container : node.isContainer with
  | false => exact .inl (Node.children_of_isContainer_eq_false container)
  | true =>
      have same := congrArg Node.isContainer expressed.shape
      rw [Node.isContainer_withChildren, container] at same
      exact .inr same.symm

/-- The lines written for attributes set them, one after another. -/
theorem Grammar.Settings.of_entries (node : Node) {entries : List (String × String)}
    (depth first : Nat)
    (settings : ∀ entry ∈ entries, IsSetting entry.1 entry.2 ∧ node.head.Allows entry.1 entry.2) :
    Settings (indentStep * depth) node
      (Line.significant first
        (entries.map fun entry => indentation depth ++ entry.1 ++ ": " ++ entry.2))
      (node.withExplicit (node.explicit.update ⟨entries⟩)) := by
  induction entries generalizing node first with
  | nil =>
      rw [OrderedMap.update, List.foldl_nil, Node.withExplicit_explicit]
      exact .nil node
  | cons entry rest ih =>
      obtain ⟨setting, allowed⟩ := settings entry List.mem_cons_self
      have later := ih (node.withExplicit (node.explicit.insert entry.1 entry.2)) (first + 1)
        fun other inside => by
          rw [Node.allows_withExplicit]
          exact settings other (List.mem_cons_of_mem entry inside)
      rw [Node.explicit_withExplicit, Node.withExplicit_withExplicit] at later
      have spelled : indentation depth ++ entry.1 ++ ": " ++ entry.2 =
          indentation depth ++ (entry.1 ++ ": " ++ entry.2) := by
        simp only [String.append_assoc]
      rw [List.map_cons, spelled,
        Line.significant_indentation setting.line setting.line_ne_empty]
      exact .cons rfl setting.sets (Node.acceptAttribute_eq_ok_iff.mpr ⟨allowed, rfl⟩) later

/-- The lines written for siblings are those of one after another. -/
theorem Grammar.Widgets.of_siblings {registry : Registry} {nodes : List Node} {depth : Nat}
    (each : ∀ node ∈ nodes, ∀ first,
      Widgets registry depth (Line.significant first (node.linesFrom depth)) [node])
    (first : Nat) :
    Widgets registry depth (Line.significant first (nodes.flatMap (Node.linesFrom depth)))
      nodes := by
  induction nodes generalizing first with
  | nil => exact .nil depth
  | cons node rest ih =>
      have here := each node List.mem_cons_self first
      have later := ih (fun other inside => each other (List.mem_cons_of_mem node inside))
        (first + (node.linesFrom depth).length)
      rw [List.flatMap_cons, Line.significant_append]
      exact here.append later

/-- What is written for an expressible tree is derived by the grammar, as that tree. -/
theorem Expressible.widgets {registry : Registry} {node : Node}
    (expressible : Expressible registry node) (depth first : Nat) :
    Widgets registry depth (Line.significant first (node.linesFrom depth)) [node] := by
  induction expressible generalizing depth first with
  | @intro made node here below ih =>
      -- Attributes of the factory are written first, so setting them again keeps their order.
      have updated : made.explicit.update node.explicit = node.explicit :=
        OrderedMap.update_eq_of_keys_begun here.distinct here.kept
      have settings : ∀ entry ∈ node.explicit.entries, IsSetting entry.1 entry.2 ∧
          (made.withKind node.kind).head.Allows entry.1 entry.2 := by
        simpa only [Node.allows_withKind] using here.settings
      have attributes := Settings.of_entries (made.withKind node.kind) (depth + 1) (first + 1)
        settings
      rw [Node.explicit_withKind, updated] at attributes
      have nested := Widgets.of_siblings (fun child inside => ih child inside (depth + 1))
        (first + 1 + node.explicit.entries.length)
      have level : (⟨node.kind ++ ":", indentStep * depth, first,
          indentation depth ++ (node.kind ++ ":")⟩ : Line).indent = indentStep * depth := rfl
      have widgets := Widgets.cons level here.name.declares here.known attributes nested
        here.holds (.nil depth)
      rw [← here.shape, List.append_nil] at widgets
      rw [Node.linesFrom_eq, declarationLines, ← Node.kind, ← Node.explicit, List.cons_append,
        String.append_assoc, Line.significant_indentation here.name.declaration (by simp),
        Line.significant_append, List.length_map]
      exact widgets

theorem IsName.unbroken_indentation {text : String} (name : IsName text) (depth : Nat) :
    Unbroken (indentation depth ++ text).toList := by
  rw [String.toList_append, toList_indentation]
  refine Unbroken.append ?_ name.unbroken
  intro c inside
  rw [List.eq_of_mem_replicate inside]
  rfl

theorem Expressed.unbroken {registry : Registry} {made node : Node}
    (expressed : Expressed registry made node) (depth : Nat) :
    ∀ line ∈ declarationLines depth node.head, Unbroken line.toList := by
  intro line inside
  rw [declarationLines, ← Node.kind, ← Node.explicit] at inside
  rcases List.mem_cons.mp inside with rfl | later
  · rw [String.append_assoc]
    exact expressed.name.declaration.unbroken_indentation depth
  · obtain ⟨entry, member, rfl⟩ := List.mem_map.mp later
    have written := (expressed.settings entry member).1.line.unbroken_indentation (depth + 1)
    simpa only [String.append_assoc] using written

theorem Expressible.unbroken {registry : Registry} {node : Node}
    (expressible : Expressible registry node) (depth : Nat) :
    ∀ line ∈ node.linesFrom depth, Unbroken line.toList := by
  induction expressible generalizing depth with
  | @intro made node here below ih =>
      intro line inside
      rw [Node.linesFrom_eq] at inside
      rcases List.mem_append.mp inside with declared | nested
      · exact here.unbroken depth line declared
      · obtain ⟨child, member, written⟩ := List.mem_flatMap.mp nested
        exact ih child member (depth + 1) line written

theorem Expressible.scan_serialize {registry : Registry} {tree : Node}
    (expressible : Expressible registry tree) :
    scan (serialize tree) = Line.significant 1 (tree.linesFrom 0) := by
  exact congrArg (Line.significant 1)
    (splitLines_intercalate_newline (tree.linesFrom_ne_nil 0) (expressible.unbroken 0))

theorem Expressible.document {registry : Registry} {tree : Node}
    (expressible : Expressible registry tree) (root : registry.isContainer tree.kind = true) :
    Document registry (scan (serialize tree)) tree := by
  refine ⟨?_, root⟩
  rw [expressible.scan_serialize]
  exact expressible.widgets 0 1

/-- What is written for a tree that was read is read as that tree. -/
theorem compile_serialize {registry : Registry} (settable : registry.MakesSettable)
    {source : String} {tree : Node} (compiled : compile registry source = .ok tree) :
    compile registry (serialize tree) = .ok tree := by
  have expressible := (expressible_invariant settable source).of_parse compiled
  exact (expressible.document (isContainer_of_parse_eq_ok compiled)).parse_eq settable.childless

theorem Expressible.return_not_mem_serialize {registry : Registry} {tree : Node}
    (expressible : Expressible registry tree) : '\r' ∉ (serialize tree).toList := by
  have spelled : (serialize tree).toList = _ :=
    toList_intercalate_newline (tree.linesFrom_ne_nil 0)
  rw [spelled]
  intro inside
  obtain ⟨line, member, ends⟩ := List.mem_flatMap.mp inside
  obtain ⟨text, written, rfl⟩ := List.mem_map.mp member
  rcases List.mem_append.mp ends with here | newline
  · cases expressible.unbroken 0 text written '\r' here
  · cases List.mem_singleton.mp newline

end TuiTemplate
