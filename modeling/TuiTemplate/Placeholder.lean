import TuiTemplate.OrderedMap
set_option autoImplicit false

namespace TuiTemplate

/-- Replacement texts by placeholder key. -/
abbrev Substitutions := OrderedMap String

namespace Placeholder

/-- The key before the first pair of closing braces of the line, and what follows the pair. -/
def closing : List Char → Option (List Char × List Char)
  | [] => none
  | '}' :: '}' :: rest => some ([], rest)
  | c :: rest =>
    if c = '\n' then none
    else (closing rest).map fun found => (c :: found.1, found.2)

theorem length_lt_of_closing {cs key rest : List Char} (h : closing cs = some (key, rest)) :
    rest.length < cs.length := by
  fun_induction closing cs generalizing key with
  | case1 => simp at h
  | case2 r =>
    cases h
    exact Nat.lt_succ_of_lt (Nat.lt_succ_self _)
  | case3 => simp at h
  | case4 c r _ _ ih =>
    obtain ⟨⟨inner, after⟩, hfound, heq⟩ := Option.map_eq_some_iff.mp h
    cases heq
    exact Nat.lt_succ_of_lt (ih hfound)

/-- A text cut at its placeholders: what stands before the first, then each key with the text
after it. -/
structure Pieces where
  lead : List Char
  slots : List (List Char × List Char)
deriving DecidableEq, Repr

namespace Pieces

def none : Pieces := ⟨[], []⟩

def addChar (c : Char) (p : Pieces) : Pieces := ⟨c :: p.lead, p.slots⟩

def addSlot (key : List Char) (p : Pieces) : Pieces := ⟨[], (key, p.lead) :: p.slots⟩

end Pieces

/-- Cuts at the leftmost opening pair that a closing pair follows on its line, as short as
possible, and goes on after it. -/
def piecesOf : List Char → Pieces
  | [] => .none
  | '{' :: '{' :: rest =>
    match h : closing rest with
    | some (key, after) =>
      have := length_lt_of_closing h
      (piecesOf after).addSlot key
    | Option.none => (piecesOf ('{' :: rest)).addChar '{'
  | c :: rest => (piecesOf rest).addChar c
termination_by cs => cs.length

/-- The text drawn for a key: its replacement, or the placeholder itself where it has none. -/
def fill (subs : Substitutions) (key : List Char) : List Char :=
  match subs.get? (String.ofList key) with
  | some value => value.toList
  | Option.none => '{' :: '{' :: key ++ ['}', '}']

/-- Replacements are put in as they are and not searched again. -/
def Pieces.fillIn (subs : Substitutions) (p : Pieces) : List Char :=
  p.lead ++ p.slots.flatMap fun slot => fill subs slot.1 ++ slot.2

def interpolateChars (subs : Substitutions) (cs : List Char) : List Char :=
  (piecesOf cs).fillIn subs

end Placeholder

/-- The text with each placeholder replaced that has a substitution. -/
def interpolate (text : String) (subs : Substitutions) : String :=
  String.ofList (Placeholder.interpolateChars subs text.toList)

/-- The keys of the placeholders, from left to right. -/
def placeholders (text : String) : List String :=
  (Placeholder.piecesOf text.toList).slots.map fun slot => String.ofList slot.1

def stripQuoteChars (cs : List Char) : List Char :=
  match cs with
  | q :: inner =>
    if (q = '"' ∨ q = '\'') ∧ inner ≠ [] ∧ inner.getLast? = some q then inner.dropLast else cs
  | [] => cs

/-- The text without the pair of equal quotes around it, if it has one. -/
def stripQuotes (text : String) : String := String.ofList (stripQuoteChars text.toList)

/-- What a quoted literal shows: its own quotes go first, so that those of a replacement stay. -/
def renderText (text : String) (subs : Substitutions) : String :=
  interpolate (stripQuotes text) subs

end TuiTemplate
