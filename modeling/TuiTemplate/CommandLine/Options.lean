set_option autoImplicit false

namespace TuiTemplate

/-- An option of a command line: its long name, its short one if it has one, and whether a value
follows it. -/
structure OptionSpec (κ : Type) where
  key : κ
  long : String
  short : Option Char := none
  takesValue : Bool := true

/-- What was read of a command line: the options with their values, and the other words. -/
structure OptionWords (κ : Type) where
  options : List (κ × String) := []
  others : List String := []

namespace OptionWords

variable {κ : Type} [BEq κ]

/-- All values of an option, from left to right. -/
def values (w : OptionWords κ) (key : κ) : List String :=
  (w.options.filter fun entry => entry.1 == key).map Prod.snd

/-- The value of an option. Of several the last one counts. -/
def value? (w : OptionWords κ) (key : κ) : Option String := (w.values key).getLast?

def isSet (w : OptionWords κ) (key : κ) : Bool := (w.value? key).isSome

end OptionWords

/-- What a single word tells: options with their values, and at its end perhaps one that the
next word is the value of. -/
structure OptionWord (κ : Type) where
  options : List (κ × String)
  waiting : Option κ

namespace OptionSpec

variable {κ : Type}

/-- The option of a word such as `--name` or `--name=value`. Only an option that takes a value
may be given one. -/
def readLong (specs : List (OptionSpec κ)) (word : String) : Option (OptionWord κ) := do
  let cs := word.toList
  let spec ← specs.find? fun spec => spec.long == String.ofList (cs.takeWhile (· ≠ '='))
  match cs.dropWhile (· ≠ '=') with
  | [] => return if spec.takesValue then ⟨[], some spec.key⟩ else ⟨[(spec.key, "")], none⟩
  | _ :: value => if spec.takesValue then some ⟨[(spec.key, String.ofList value)], none⟩ else none

/-- The options of a word such as `-abc`. What follows an option that takes a value is its
value. -/
def readShort (specs : List (OptionSpec κ)) : List Char → Option (OptionWord κ)
  | [] => some ⟨[], none⟩
  | c :: rest =>
    match specs.find? fun spec => spec.short == some c with
    | none => none
    | some spec =>
      if spec.takesValue then
        some (if rest.isEmpty then ⟨[], some spec.key⟩
          else ⟨[(spec.key, String.ofList rest)], none⟩)
      else
        (readShort specs rest).map fun word =>
          { word with options := (spec.key, "") :: word.options }

/-- The options of a word, if it is one of options at all. A single dash is not. -/
def readWord (specs : List (OptionSpec κ)) (word : String) : Option (Option (OptionWord κ)) :=
  match word.toList with
  | '-' :: '-' :: _ => some (readLong specs word)
  | '-' :: c :: rest => some (readShort specs (c :: rest))
  | _ => none

/-- Reads the words of a command line. After two dashes all words stand for themselves, and
unless `mixed` so do all words from the first one on that is no option. Nothing is read where an
option is unknown or has a value too many or too few. -/
def readWords (specs : List (OptionSpec κ)) (mixed : Bool) (waiting : Option κ)
    (found : OptionWords κ) : List String → Option (OptionWords κ)
  | [] => if waiting.isSome then none else some found
  | word :: rest =>
    match waiting with
    | some key =>
      readWords specs mixed none { found with options := found.options ++ [(key, word)] } rest
    | none =>
      if word == "--" then some { found with others := found.others ++ rest }
      else
        match readWord specs word with
        | some none => none
        | some (some read) =>
          readWords specs mixed read.waiting
            { found with options := found.options ++ read.options } rest
        | none =>
          if mixed then
            readWords specs mixed none { found with others := found.others ++ [word] } rest
          else some { found with others := found.others ++ word :: rest }

end OptionSpec

end TuiTemplate
