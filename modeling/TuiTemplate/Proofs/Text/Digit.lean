import Mathlib.Data.List.TakeWhile
import TuiTemplate.Text.Digit

set_option autoImplicit false

namespace TuiTemplate.Text

/-- Whether a text can be read as a number: but for the blanks around it, it has decimal digits
only, at least one and not too many. -/
def IsNumeral (literal : String) : Prop :=
  trimNumeral literal.toList ≠ [] ∧
    (∀ c ∈ trimNumeral literal.toList, (decimalValue? c).isSome = true) ∧
    (trimNumeral literal.toList).length ≤ maxDigits

theorem exists_parseNumeral_eq_ok_iff {literal : String} :
    (∃ n, parseNumeral literal = .ok n) ↔ IsNumeral literal := by
  rw [parseNumeral, IsNumeral]
  generalize trimNumeral literal.toList = cs
  let isDecimal : Char → Bool := fun c => (decimalValue? c).isSome
  let digits := (cs.takeWhile isDecimal).filterMap decimalValue?
  have length : digits.length = (cs.takeWhile isDecimal).length := by
    rw [List.length_filterMap_eq_countP, List.countP_eq_length]
    intro c inside
    exact List.mem_takeWhile_imp (p := isDecimal) inside
  have whole : digits.length = cs.length ↔ ∀ c ∈ cs, (decimalValue? c).isSome = true := by
    rw [length, ← List.takeWhile_eq_self_iff (p := isDecimal)]
    exact ⟨(List.takeWhile_prefix isDecimal).eq_of_length, congrArg List.length⟩
  constructor
  · rintro ⟨n, read⟩
    split at read
    · cases read
    split at read
    · cases read
    · next few complete =>
        have filled : digits ≠ [] ∧ digits.length = cs.length := by
          simpa only [Bool.or_eq_true, List.isEmpty_iff, decide_eq_true_eq, not_or, ne_eq,
            not_not] using complete
        refine ⟨?_, whole.mp filled.2, filled.2 ▸ Nat.le_of_not_lt few⟩
        rw [← List.length_pos_iff, ← filled.2]
        exact List.length_pos_iff.mpr filled.1
  · rintro ⟨filled, decimal, few⟩
    have same := whole.mpr decimal
    have digitsFilled : digits ≠ [] := by
      rw [← List.length_pos_iff, same]
      exact List.length_pos_iff.mpr filled
    refine ⟨valueOfDigits digits, ?_⟩
    rw [if_neg (by rw [same]; exact Nat.not_lt_of_le few), if_neg]
    simp only [Bool.or_eq_true, List.isEmpty_iff, decide_eq_true_eq, not_or, ne_eq, not_not]
    exact ⟨digitsFilled, same⟩

end TuiTemplate.Text
