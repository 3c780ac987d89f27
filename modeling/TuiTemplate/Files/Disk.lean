import TuiTemplate.Files.Path
import TuiTemplate.Text.Quoted
set_option autoImplicit false

namespace TuiTemplate

abbrev Bytes := List UInt8

/-- Why a file cannot be read. -/
inductive FileError where
  | notFound
  | notDirectory
  | isDirectory
  | tooLong
  | other (number : Nat) (text : String)
deriving DecidableEq, Repr

namespace FileError

def number : FileError → Nat
  | .notFound => 2
  | .notDirectory => 20
  | .isDirectory => 21
  | .tooLong => 36
  | .other number _ => number

def text : FileError → String
  | .notFound => "No such file or directory"
  | .notDirectory => "Not a directory"
  | .isDirectory => "Is a directory"
  | .tooLong => "File name too long"
  | .other _ text => text

def message (e : FileError) (path : Path) : String :=
  "[Errno " ++ toString e.number ++ "] " ++ e.text ++ ": " ++ Text.quote path.text

end FileError

/-- Where files are read from. -/
structure Disk where
  read : Path → Except FileError Bytes

/-- Files by the names on the way to them, and directories that may be empty. -/
structure FileTree where
  files : List (List String × Bytes) := []
  directories : List (List String) := []

/-- What is found at a place. -/
inductive Entry where
  | missing
  | directory
  | file (content : Bytes)
deriving DecidableEq, Repr

namespace FileTree

/-- What stands at a place. The places on the way to others are directories. -/
def entry (t : FileTree) (place : List String) : Entry :=
  match t.files.lookup place with
  | some content => .file content
  | none =>
    if place.isEmpty || (t.directories.any place.isPrefixOf) ||
        t.files.any (fun file => place.isPrefixOf file.1) then .directory
    else .missing

/-- Puts a file at a place, in the stead of what was there. -/
def write (t : FileTree) (place : List String) (content : Bytes) : FileTree :=
  { t with files := (place, content) :: t.files.filter fun file => file.1 ≠ place }

def addDirectory (t : FileTree) (place : List String) : FileTree :=
  { t with directories := place :: t.directories }

/-- Removes a file. The directory that it was in stays. -/
def remove (t : FileTree) (place : List String) : FileTree :=
  { files := t.files.filter fun file => file.1 ≠ place
    directories := place.dropLast :: t.directories }

/-- The most bytes that a name has. -/
def maxNameSize : Nat := 255

/-- The place that names lead to from a directory. All but the last have to lead to
directories. Of what is above the tree only the way up is known. -/
def locate (t : FileTree) (here : List String) : List String → Except FileError (List String)
  | [] => .ok here
  | name :: rest =>
    if name == ".." then
      if here.isEmpty then
        if rest.all (· == "..") then .ok here else .error .notFound
      else t.locate here.dropLast rest
    else if maxNameSize < name.utf8ByteSize then .error .tooLong
    else
      let next := here ++ [name]
      match t.entry next with
      | .missing => .error .notFound
      | .directory => t.locate next rest
      | .file _ => if rest.isEmpty then .ok next else .error .notDirectory

/-- The bytes from which on the text of a path is too long to be followed. -/
def maxPathSize : Nat := 4096

/-- What is known of the places that are not in a tree: the directories that every system has, and
the file that never has content. -/
def system : FileTree where
  files := [(["dev", "null"], [])]
  directories :=
    ["bin", "etc", "home", "lib", "proc", "root", "sys", "tmp", "usr", "var"].map fun name => [name]

/-- What a path leads to. Only paths from the current place lead into the tree. Above the root of
all places there is the root again. -/
def lookup (t : FileTree) (p : Path) : Except FileError Entry :=
  if maxPathSize ≤ p.text.utf8ByteSize then .error .tooLong
  else if p.root.isEmpty then (t.locate [] p.names).map t.entry
  else (system.locate [] (p.names.dropWhile (· == ".."))).map system.entry

def disk (t : FileTree) : Disk where
  read p :=
    match t.lookup p with
    | .error e => .error e
    | .ok (.file content) => .ok content
    | .ok .directory => .error .isDirectory
    | .ok .missing => .error .notFound

end FileTree

end TuiTemplate
