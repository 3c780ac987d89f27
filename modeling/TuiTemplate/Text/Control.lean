set_option autoImplicit false

namespace TuiTemplate.Text

/-- Bell, backspace, vertical tab, form feed and carriage return move the cursor of a terminal,
so they are never shown. -/
def movesCursor (c : Char) : Bool :=
  let n := c.toNat
  n == 7 || n == 8 || n == 11 || n == 12 || n == 13

def removeControls (s : String) : String :=
  String.ofList (s.toList.filter fun c => !movesCursor c)

/-- What follows the parameters of a terminal sequence and the letter that ends it. -/
def afterSequence : List Char → Option (List Char)
  | [] => none
  | c :: rest =>
    if c.isAlpha then some rest
    else if c.isDigit || c == ';' || c == '?' then afterSequence rest
    else none

theorem length_lt_of_afterSequence {cs rest : List Char} (h : afterSequence cs = some rest) :
    rest.length < cs.length := by
  fun_induction afterSequence cs with
  | case1 => simp at h
  | case2 c r _ =>
    cases h
    exact Nat.lt_succ_self _
  | case3 c r _ _ ih => exact Nat.lt_succ_of_lt (ih h)
  | case4 => simp at h

/-- The text without the sequences that set the colours of a terminal. -/
def withoutSequences : List Char → List Char
  | [] => []
  | '\x1b' :: '[' :: rest =>
    match h : afterSequence rest with
    | some after =>
      have := length_lt_of_afterSequence h
      withoutSequences after
    | none => '\x1b' :: withoutSequences ('[' :: rest)
  | c :: rest => c :: withoutSequences rest
termination_by cs => cs.length

end TuiTemplate.Text
