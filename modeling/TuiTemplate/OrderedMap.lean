set_option autoImplicit false

namespace TuiTemplate

/-- A finite map from names that lists its keys in the order in which they were first set.
Setting a key again keeps its place. -/
structure OrderedMap (α : Type) where
  entries : List (String × α) := []
deriving DecidableEq, Repr

namespace OrderedMap

variable {α : Type}

def empty : OrderedMap α := ⟨[]⟩

def lookupIn (key : String) : List (String × α) → Option α
  | [] => none
  | (k, v) :: rest => if k = key then some v else lookupIn key rest

def insertIn (key : String) (value : α) : List (String × α) → List (String × α)
  | [] => [(key, value)]
  | (k, v) :: rest => if k = key then (key, value) :: rest else (k, v) :: insertIn key value rest

def get? (m : OrderedMap α) (key : String) : Option α := lookupIn key m.entries

def insert (m : OrderedMap α) (key : String) (value : α) : OrderedMap α :=
  ⟨insertIn key value m.entries⟩

def erase (m : OrderedMap α) (key : String) : OrderedMap α :=
  ⟨m.entries.filter fun entry => entry.1 ≠ key⟩

def contains (m : OrderedMap α) (key : String) : Bool := (m.get? key).isSome

def keys (m : OrderedMap α) : List String := m.entries.map Prod.fst

def values (m : OrderedMap α) : List α := m.entries.map Prod.snd

/-- Later pairs win, in the place of the first pair of their key. -/
def ofList (pairs : List (String × α)) : OrderedMap α :=
  pairs.foldl (fun m pair => m.insert pair.1 pair.2) empty

/-- The entries of `other` set one after another on top of `m`. -/
def update (m other : OrderedMap α) : OrderedMap α :=
  other.entries.foldl (fun acc pair => acc.insert pair.1 pair.2) m

end OrderedMap

end TuiTemplate
