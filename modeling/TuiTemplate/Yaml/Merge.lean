import TuiTemplate.Yaml.Graph
set_option autoImplicit false

namespace TuiTemplate.Yaml

/-- The nodes of a document as they are by now. Reading a mapping replaces its merge keys. -/
abbrev Nodes := Array GraphNode

namespace Nodes

def hasTag (nodes : Nodes) (tag : ScalarTag) (i : Nat) : Bool :=
  nodes[i]?.any fun node => node.tag = .scalar tag

def entries? (nodes : Nodes) (i : Nat) : Option (List (Nat × Nat)) :=
  match nodes[i]? with
  | some ⟨_, .map entries⟩ => some entries
  | _ => none

def entries (nodes : Nodes) (i : Nat) : List (Nat × Nat) := (nodes.entries? i).getD []

def setEntries (nodes : Nodes) (i : Nat) (entries : List (Nat × Nat)) : Nodes :=
  match nodes[i]? with
  | some node => nodes.setIfInBounds i { node with content := .map entries }
  | none => nodes

/-- The mappings that a merge key refers to: one, or a list of them. -/
def mergeSources (nodes : Nodes) (i : Nat) : Option (List Nat) :=
  match nodes[i]? with
  | some ⟨_, .map _⟩ => some [i]
  | some ⟨_, .seq items⟩ =>
    if items.all fun item => (nodes.entries? item).isSome then some items else none
  | _ => none

/-- A key `=` of a mapping is a text. -/
def nameValueKeys (nodes : Nodes) (i : Nat) : Nodes :=
  (nodes.entries i).foldl
    (fun nodes entry =>
      if nodes.hasTag .value entry.1 then
        nodes.modify entry.1 fun node => { node with tag := .scalar .text }
      else nodes)
    nodes

/-- The number of merge keys of all mappings. -/
def mergeKeys (nodes : Nodes) : Nat :=
  nodes.foldl
    (fun count node =>
      match node.content with
      | .map entries => count + entries.countP fun entry => nodes.hasTag .merge entry.1
      | _ => count)
    0

/-- Replaces the merge keys of a mapping, one after the other. What they refer to is merged first,
and its entries come before the present ones. Of several mappings the first one named wins, so that
it comes last. Each step takes a merge key away, whose number bounds the steps. -/
def mergeFrom : Nat → Nodes → Nat → List (Nat × Nat) → Except ReadError Nodes
  | 0, nodes, _, _ => .ok nodes
  | bound + 1, nodes, i, merged =>
    let isMerge (entry : Nat × Nat) : Bool := nodes.hasTag .merge entry.1
    match (nodes.entries i).find? isMerge with
    | none => .ok ((nodes.setEntries i (merged ++ nodes.entries i)).nameValueKeys i)
    | some entry => do
      let sources ← nodes.mergeSources entry.2
      let start := nodes.setEntries i ((nodes.entries i).eraseP isMerge)
      let (nodes, groups) ← sources.foldlM
        (fun (nodes, groups) source => do
          let nodes ← mergeFrom bound nodes source []
          return (nodes, nodes.entries source :: groups))
        (start, [])
      mergeFrom bound nodes i (merged ++ groups.flatten)

/-- The nodes with the merge keys of one mapping replaced. -/
def merge (nodes : Nodes) (i : Nat) : Except ReadError Nodes :=
  mergeFrom (nodes.mergeKeys + 1) nodes i []

end Nodes

end TuiTemplate.Yaml
