set_option autoImplicit false

namespace TuiTemplate

/-- The way to a file: what it starts with, which is empty unless the way is absolute, and the
names along it. -/
structure Path where
  root : String
  names : List String
deriving DecidableEq, Repr

namespace Path

/-- Empty names and single dots lead nowhere and are dropped. Two slashes at the start stay, and
more count as one. -/
def ofString (s : String) : Path :=
  let slashes := (s.toList.takeWhile (· = '/')).length
  let root := if slashes = 0 then "" else if slashes = 2 then "//" else "/"
  ⟨root, (s.splitOn "/").filter fun name => !(name == "" || name == ".")⟩

/-- The path as it is shown. A path without names is the place one is at. -/
def text (p : Path) : String :=
  if p.root.isEmpty && p.names.isEmpty then "." else p.root ++ "/".intercalate p.names

/-- Whether the path can be looked up at all. A zero character would end it early. -/
def isWhole (p : Path) : Bool := !p.names.any fun name => name.toList.contains '\x00'

def zeroMessage : String := "embedded null byte"

end Path

end TuiTemplate
