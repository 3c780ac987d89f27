import TuiTemplate.Yaml.Loader
import TuiTemplate.Yaml.Merge
set_option autoImplicit false

namespace TuiTemplate.Yaml

/-- Sets a key. An equal key that is there already keeps its place and its own spelling. -/
def setKey {α : Type} (key : Scalar) (value : α) : List (Scalar × α) → List (Scalar × α)
  | [] => [(key, value)]
  | (k, v) :: rest =>
    if k.sameKey key then (k, value) :: rest else (k, v) :: setKey key value rest

/-- What a node stands for: a scalar, or the collection that the node is. -/
inductive NodeValue where
  | scalar (value : Scalar)
  | collection (node : Nat)

/-- The state of giving values to nodes: the nodes as they are by now, the values of scalars, the
collections met so far, those of them that wait to be gone through, and the entries of mappings and
sets. -/
structure Valuation where
  nodes : Nodes
  scalars : List (Nat × Scalar) := []
  met : List Nat := []
  waiting : List Nat := []
  entries : List (Nat × List (Scalar × NodeValue)) := []

namespace Valuation

/-- The text of a node that is to be a scalar. A mapping gives the text of its entry with the key
`=`. -/
def scalarText (nodes : Nodes) : Nat → Nat → Option String
  | 0, _ => none
  | bound + 1, i =>
    match nodes[i]? with
    | some ⟨_, .scalar text⟩ => some text
    | some ⟨_, .map entries⟩ => do
      let entry ← entries.find? fun entry => nodes.hasTag .value entry.1
      scalarText nodes bound entry.2
    | _ => none

/-- The scalar that a node with a scalar tag stands for. A date has to be a text itself. -/
def scalarAt (nodes : Nodes) (tag : ScalarTag) (i : Nat) : Except ReadError Scalar := do
  let text ← scalarText nodes (nodes.size + 1) i
  if tag = .timestamp && (nodes.entries? i).isSome then throw (.noValue .noText)
  else scalarOf tag text

/-- What a node stands for. It is found out once, and a collection that is met for the first time
waits to be gone through. -/
def value (v : Valuation) (i : Nat) : Except ReadError (NodeValue × Valuation) := do
  match v.scalars.lookup i with
  | some value => return (.scalar value, v)
  | none =>
    if v.met.contains i then return (.collection i, v)
    else
      match (← v.nodes[i]?).tag with
      | .scalar tag =>
        let value ← scalarAt v.nodes tag i
        return (.scalar value, { v with scalars := (i, value) :: v.scalars })
      | .unknown => throw .malformed
      | .seq | .map | .set | .pairs =>
        return (.collection i, { v with met := i :: v.met, waiting := v.waiting ++ [i] })

/-- The scalar at the place of a key. Collections are no keys. -/
def key (v : Valuation) (i : Nat) : Except ReadError (Scalar × Valuation) := do
  match ← v.value i with
  | (.scalar value, v) => return (value, v)
  | (.collection _, _) => throw .malformed

/-- The entries of a mapping, each key before its value. -/
def readEntries (v : Valuation) (read : List (Scalar × NodeValue)) :
    List (Nat × Nat) → Except ReadError (List (Scalar × NodeValue) × Valuation)
  | [] => return (read, v)
  | (k, i) :: rest => do
    let (key, v) ← v.key k
    let (value, v) ← v.value i
    readEntries v (setKey key value read) rest

/-- Goes through a mapping or a set, whose merge keys are replaced before. -/
def readMapping (v : Valuation) (i : Nat) : Except ReadError Valuation := do
  let _ ← v.nodes.entries? i
  let nodes ← v.nodes.merge i
  let (read, v) ← { v with nodes := nodes }.readEntries [] (nodes.entries i)
  return { v with entries := (i, read) :: v.entries }

/-- Goes through an item of a list of pairs, which is a mapping of one entry. -/
def readPair (v : Valuation) (i : Nat) : Except ReadError Valuation := do
  match v.nodes.entries? i with
  | some [(k, item)] => return (← (← v.value k).2.value item).2
  | _ => throw .malformed

/-- Goes through a collection. Its content has to fit its tag. -/
def read (v : Valuation) (i : Nat) : Except ReadError Valuation := do
  let node ← v.nodes[i]?
  match node.tag, node.content with
  | .seq, .seq items => items.foldlM (fun v item => (v.value item).map Prod.snd) v
  | .pairs, .seq items => items.foldlM readPair v
  | .map, .map _ | .set, .map _ => v.readMapping i
  | _, _ => throw .malformed

/-- Goes through the waiting collections, in the order in which they were met. -/
def readWaiting : Nat → Valuation → Except ReadError Valuation
  | 0, v => .ok v
  | bound + 1, v =>
    match v.waiting with
    | [] => .ok v
    | i :: waiting => do readWaiting bound (← { v with waiting := waiting }.read i)

def hasTag (v : Valuation) (tag : NodeTag) (i : Nat) : Bool :=
  v.nodes[i]?.any fun node => node.tag = tag

def item (v : Valuation) : NodeValue → Item
  | .scalar value => .scalar value
  | .collection i =>
    if v.hasTag .set i then .set (((v.entries.lookup i).getD []).map Prod.fst) else .collection

end Valuation

/-- What the top of a document stands for. -/
def Graph.content (g : Graph) : Except ReadError Content := do
  let start : Valuation := { nodes := g.nodes.toArray }
  match ← start.value g.root with
  | (.scalar .null, _) => return .nothing
  | (.scalar value, _) => return .scalar value
  | (.collection root, v) =>
    let v ← v.readWaiting (g.nodes.length + 1)
    if v.hasTag .map root then
      return .mapping (((v.entries.lookup root).getD []).map fun entry =>
        (entry.1, v.item entry.2))
    else return .collection

/-- What the only document of a text holds. -/
def read (text : List Char) : Except ReadError Content := do
  let graph ← ((tokens? true text).bind graph?).mapError fun e => e.error?.getD .malformed
  match graph with
  | none => return .nothing
  | some graph => graph.content

/-- The whole lines of a text, without what follows the last line break. -/
def wholeLines (text : List Char) : List Char :=
  (text.reverse.dropWhile fun c => !isBreak c).reverse

/-- What is wrong with a text by its first lines, whatever comes after them. -/
def wrongSoFar? (start : List Char) : Option ReadError :=
  if start.all isAllowed then
    match (tokens? false (wholeLines start)).bind graph? with
    | .error e => e.error?
    | .ok _ => none
  else some .malformed

/-- The starts of a text at which its first lines are looked at. -/
def heads (text : List Char) : List (List Char) :=
  (List.range (text.length / TextFile.requestSize)).map fun k =>
    text.take (TextFile.requestSize * (k + 1))

theorem heads_prefix_append (start rest : List Char) : heads start <+: heads (start ++ rest) := by
  obtain ⟨more, longer⟩ : ∃ more, (start ++ rest).length / TextFile.requestSize =
      start.length / TextFile.requestSize + more :=
    Nat.exists_eq_add_of_le (Nat.div_le_div_right (by rw [List.length_append]; omega))
  have same : heads start = (List.range (start.length / TextFile.requestSize)).map fun k =>
      (start ++ rest).take (TextFile.requestSize * (k + 1)) := by
    refine List.map_congr_left fun k inside => ?_
    have within : TextFile.requestSize * (k + 1) ≤ start.length :=
      Nat.le_trans (Nat.mul_le_mul_left _ (List.mem_range.mp inside)) (Nat.mul_div_le _ _)
    rw [List.take_append_of_le_length within]
  rw [same, heads, longer, List.range_add, List.map_append]
  exact List.prefix_append _ _

/-- The loader that finds out about a text at each of its heads, and else when all of it is there. -/
def loader : Loader where
  wrong? start := (heads start).findSome? wrongSoFar?
  load text :=
    match (heads text).findSome? wrongSoFar? with
    | some e => .error e
    | none => read text
  load_of_wrong start rest e wrong := by
    have found := (heads_prefix_append start rest).findSome?_eq_some wrong
    simp only [found]

end TuiTemplate.Yaml
