import TuiTemplate.Yaml.Scalar
import TuiTemplate.Yaml.Token
set_option autoImplicit false

namespace TuiTemplate.Yaml

/-- What a tag makes of a node: a kind of scalar, a kind of collection, or nothing known. -/
inductive NodeTag where
  | scalar (tag : ScalarTag)
  | seq
  | map
  | set
  | pairs
  | unknown
deriving DecidableEq, Repr

/-- What a node holds. Nodes refer to others by number, since an alias may refer to a node
around it. -/
inductive NodeContent where
  | scalar (text : String)
  | seq (items : List Nat)
  | map (entries : List (Nat × Nat))
deriving DecidableEq, Repr

structure GraphNode where
  tag : NodeTag
  content : NodeContent
deriving DecidableEq, Repr

/-- The nodes of a document. -/
structure Graph where
  nodes : List GraphNode
  root : Nat
deriving DecidableEq, Repr

/-- The common start of the names of known tags. -/
def tagSpace : String := "tag:yaml.org,2002:"

def knownTags : List (String × NodeTag) :=
  [("null", .scalar .null), ("bool", .scalar .bool), ("int", .scalar .int),
   ("float", .scalar .float), ("binary", .scalar .binary), ("timestamp", .scalar .timestamp),
   ("str", .scalar .text), ("merge", .scalar .merge), ("value", .scalar .value),
   ("seq", .seq), ("map", .map), ("set", .set), ("omap", .pairs), ("pairs", .pairs)]

def tagOfName (name : String) : NodeTag :=
  ((knownTags.map fun entry => (tagSpace ++ entry.1, entry.2)).lookup name).getD .unknown

/-- The state of reading nodes: the tokens left, the nodes so far, their names, and the meaning
of tag handles. -/
structure Reader where
  tokens : List Token
  nodes : Array GraphNode := #[]
  anchors : List (String × Nat) := []
  handles : List (String × String) := []

namespace Reader

/-- The next token. One that stops the reading may not be looked at. -/
def next (s : Reader) : Except Stop (Option Token) :=
  match s.tokens.head? with
  | some (.unreadable e) => .error e
  | next => .ok next

def pass (s : Reader) : Reader := { s with tokens := s.tokens.drop 1 }

/-- Whether the next token is one of the given signs. -/
def sees (s : Reader) (signs : List Token) : Except Stop Bool :=
  s.next.map fun next => next.any signs.contains

/-- Passes a token if it is the next one. -/
def pass? (s : Reader) (t : Token) : Except Stop (Option Reader) :=
  s.next.map fun next => if next == some t then some s.pass else none

/-- Passes a token that has to be the next one. -/
def passed (s : Reader) (t : Token) : Except Stop Reader := (s.pass? t).bind required

def add (s : Reader) (n : GraphNode) : Nat × Reader :=
  (s.nodes.size, { s with nodes := s.nodes.push n })

def fill (s : Reader) (i : Nat) (n : GraphNode) : Reader :=
  { s with nodes := s.nodes.setIfInBounds i n }

def addNull (s : Reader) : Nat × Reader := s.add ⟨.scalar .null, .scalar ""⟩

/-- The name of a tag, whose handle has to be known. -/
def tagName (s : Reader) (handle : Option String) (suffix : String) : Option String :=
  match handle with
  | none => some suffix
  | some handle => (s.handles.lookup handle).map (· ++ suffix)

/-- The name and the tag before a node, in either order. What follows the first of them is looked
at before the tag is. -/
def properties (s : Reader) : Except Stop (Option String × Option String × Reader) := do
  match ← s.next with
  | some (.anchor name) =>
    match ← s.pass.next with
    | some (.tag handle suffix) =>
      return (some name, some (← s.tagName handle suffix), s.pass.pass)
    | _ => return (some name, none, s.pass)
  | some (.tag handle suffix) =>
    match ← s.pass.next with
    | some (.anchor name) =>
      return (some name, some (← s.tagName handle suffix), s.pass.pass)
    | _ => return (none, some (← s.tagName handle suffix), s.pass)
  | _ => return (none, none, s)

/-- Texts that would be signs of the format if they were plain. No value has their form. -/
def reservedTexts : List String := ["!", "&", "*"]

/-- The tag of a scalar. Without a name it follows from the text if that is plain, and an
exclamation mark alone makes any text plain. -/
def scalarTag (tag : Option String) (text : String) (plain : Bool) : NodeTag :=
  match tag with
  | some "!" => if reservedTexts.contains (formOf text) then .unknown else .scalar (tagOfPlain text)
  | some name => tagOfName name
  | none => .scalar (if plain then tagOfPlain text else .text)

def collectionTag (tag : Option String) (usual : NodeTag) : NodeTag :=
  match tag with
  | some "!" | none => usual
  | some name => tagOfName name

/-- Names a node. A name may be given only once. -/
def register (s : Reader) (anchor : Option String) (i : Nat) : Option Reader :=
  match anchor with
  | none => some s
  | some name =>
    if (s.anchors.lookup name).isSome then none
    else some { s with anchors := (name, i) :: s.anchors }

mutual

/-- Reads a node. Outside brackets it may be a block, and as a value also a sequence that is not
indented. -/
def node (block unindented : Bool) : Nat → Reader → Except Stop (Nat × Reader)
  | 0, _ => throw .malformed
  | bound + 1, s => do
    match ← s.next with
    | some (.alias name) => return (← s.anchors.lookup name, s.pass)
    | _ =>
      let (anchor, tag, s) ← s.properties
      let seq : GraphNode := ⟨collectionTag tag .seq, .seq []⟩
      let map : GraphNode := ⟨collectionTag tag .map, .map []⟩
      let finishSeq (i : Nat) (result : List Nat × Reader) : Nat × Reader :=
        (i, result.2.fill i { seq with content := .seq result.1 })
      let finishMap (i : Nat) (result : List (Nat × Nat) × Reader) : Nat × Reader :=
        (i, result.2.fill i { map with content := .map result.1 })
      match ← s.next with
      | some (.scalar text plain) =>
        let (i, s) := s.pass.add ⟨scalarTag tag text plain, .scalar text⟩
        return (i, ← s.register anchor i)
      | some .flowSequenceStart =>
        let (i, s) := s.pass.add seq
        return finishSeq i (← flowItems true bound (← s.register anchor i))
      | some .flowMappingStart =>
        let (i, s) := s.pass.add map
        return finishMap i (← flowEntries true bound (← s.register anchor i))
      | some .blockEntry =>
        if unindented then
          let (i, s) := s.add seq
          return finishSeq i (← unindentedItems bound (← s.register anchor i))
        else emptyNode anchor tag s
      | some .blockSequenceStart =>
        if block then
          let (i, s) := s.pass.add seq
          return finishSeq i (← blockItems bound (← s.register anchor i))
        else emptyNode anchor tag s
      | some .blockMappingStart =>
        if block then
          let (i, s) := s.pass.add map
          return finishMap i (← blockEntries bound (← s.register anchor i))
        else emptyNode anchor tag s
      | _ => emptyNode anchor tag s

/-- A node without content, which is one only if it has a name or a tag. -/
def emptyNode (anchor tag : Option String) (s : Reader) :
    Except Stop (Nat × Reader) := do
  if anchor.isNone && tag.isNone then throw .malformed
  else
    let (i, s) := s.add ⟨scalarTag tag "" true, .scalar ""⟩
    return (i, ← s.register anchor i)

/-- A node, or null before one of the given signs. -/
def nodeOrNull (block unindented : Bool) (stops : List Token) :
    Nat → Reader → Except Stop (Nat × Reader)
  | 0, _ => throw .malformed
  | bound + 1, s => do
    if ← s.sees stops then return s.addNull else node block unindented bound s

def blockItems : Nat → Reader → Except Stop (List Nat × Reader)
  | 0, _ => throw .malformed
  | bound + 1, s => do
    match ← s.pass? .blockEntry with
    | some s =>
      let (i, s) ← nodeOrNull true false [.blockEntry, .blockEnd] bound s
      let (rest, s) ← blockItems bound s
      return (i :: rest, s)
    | none => return ([], ← s.passed .blockEnd)

def unindentedItems : Nat → Reader → Except Stop (List Nat × Reader)
  | 0, _ => throw .malformed
  | bound + 1, s => do
    match ← s.pass? .blockEntry with
    | some s =>
      let (i, s) ← nodeOrNull true false [.blockEntry, .key, .value, .blockEnd] bound s
      let (rest, s) ← unindentedItems bound s
      return (i :: rest, s)
    | none => return ([], s)

def blockEntries : Nat → Reader → Except Stop (List (Nat × Nat) × Reader)
  | 0, _ => throw .malformed
  | bound + 1, s => do
    let stops : List Token := [.key, .value, .blockEnd]
    match ← s.pass? .key with
    | some s =>
      let (k, s) ← nodeOrNull true true stops bound s
      let (v, s) ←
        match ← s.pass? .value with
        | some s => nodeOrNull true true stops bound s
        | none => pure s.addNull
      let (rest, s) ← blockEntries bound s
      return ((k, v) :: rest, s)
    | none => return ([], ← s.passed .blockEnd)

/-- The items up to the closing bracket. A key among them makes a mapping of one entry. -/
def flowItems (first : Bool) : Nat → Reader → Except Stop (List Nat × Reader)
  | 0, _ => throw .malformed
  | bound + 1, s => do
    match ← s.pass? .flowSequenceEnd with
    | some s => return ([], s)
    | none =>
      let s ← if first then pure s else s.passed .flowEntry
      match ← s.pass? .flowSequenceEnd, ← s.pass? .key with
      | some s, _ => return ([], s)
      | none, some s =>
        let (i, s) := s.add ⟨.map, .map []⟩
        let (k, s) ← nodeOrNull false false [.value, .flowEntry, .flowSequenceEnd] bound s
        let (v, s) ← flowValue .flowSequenceEnd bound s
        let (rest, s) ← flowItems false bound (s.fill i ⟨.map, .map [(k, v)]⟩)
        return (i :: rest, s)
      | none, none =>
        let (i, s) ← node false false bound s
        let (rest, s) ← flowItems false bound s
        return (i :: rest, s)

/-- The value after a colon within brackets, or null. -/
def flowValue (close : Token) : Nat → Reader → Except Stop (Nat × Reader)
  | 0, _ => throw .malformed
  | bound + 1, s => do
    match ← s.pass? .value with
    | some s => nodeOrNull false false [.flowEntry, close] bound s
    | none => return s.addNull

/-- The entries up to the closing brace. A node without a colon is a key with the value null. -/
def flowEntries (first : Bool) : Nat → Reader → Except Stop (List (Nat × Nat) × Reader)
  | 0, _ => throw .malformed
  | bound + 1, s => do
    match ← s.pass? .flowMappingEnd with
    | some s => return ([], s)
    | none =>
      let s ← if first then pure s else s.passed .flowEntry
      match ← s.pass? .flowMappingEnd, ← s.pass? .key with
      | some s, _ => return ([], s)
      | none, some s =>
        let (k, s) ← nodeOrNull false false [.value, .flowEntry, .flowMappingEnd] bound s
        let (v, s) ← flowValue .flowMappingEnd bound s
        let (rest, s) ← flowEntries false bound s
        return ((k, v) :: rest, s)
      | none, none =>
        let (k, s) ← node false false bound s
        let (v, s) := s.addNull
        let (rest, s) ← flowEntries false bound s
        return ((k, v) :: rest, s)

end

/-- The directives before a document. Neither the version nor a handle may be stated twice, and
the version has to be of the first generation. -/
def directives (versioned : Bool) (handles : List (String × String)) :
    List Token → Option (List (String × String) × List Token)
  | .version major :: rest =>
    if versioned || major ≠ 1 then none else directives true handles rest
  | .tagHandle handle target :: rest =>
    if (handles.lookup handle).isSome then none
    else directives versioned ((handle, target) :: handles) rest
  | .otherDirective :: rest => directives versioned handles rest
  | tokens => some (handles, tokens)

/-- The start of a document that is marked: its directives and the marker, both passed. -/
def documentStart (s : Reader) : Except Stop Reader := do
  let (handles, rest) ← directives false [] s.tokens
  { s with tokens := rest, handles := handles }.passed .documentStart

/-- Passes the markers of the end of a document. -/
def passEnds (s : Reader) : Reader := { s with tokens := s.tokens.dropWhile (· == .documentEnd) }

end Reader

/-- Handles that are known without being stated. -/
def usualHandles : List (String × String) := [("!", "!"), ("!!", tagSpace)]

def startsDocument : Token → Bool
  | .version _ | .tagHandle _ _ | .otherDirective | .documentStart => true
  | _ => false

/-- The nodes that were read for a document, which has to be the last one. The start of another
one is read before it is refused. -/
def finishGraph (root : Nat) (s : Reader) : Except Stop Graph := do
  let s := s.passEnds
  match ← s.next with
  | none => return ⟨s.nodes.toList, root⟩
  | some _ =>
    let _ ← s.documentStart
    throw .malformed

/-- The nodes of the only document among the tokens, if there is one. -/
def graph? (tokens : List Token) : Except Stop (Option Graph) := do
  let bound := 4 * tokens.length + 8
  let s : Reader := { tokens := tokens }
  match ← s.next with
  | none => return none
  | some first =>
    if startsDocument first then
      let s ← s.documentStart
      let s := { s with handles := s.handles ++ usualHandles }
      let isEmpty := (← s.next).all fun t => startsDocument t || t == .documentEnd
      let (root, s) ← if isEmpty then pure s.addNull else Reader.node true false bound s
      return some (← finishGraph root s)
    else
      let (root, s) ← Reader.node true false bound { s with handles := usualHandles }
      return some (← finishGraph root s)

end TuiTemplate.Yaml
