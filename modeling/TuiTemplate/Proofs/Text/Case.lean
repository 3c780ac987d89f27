import Mathlib
import TuiTemplate.Text.Case
import TuiTemplate.Text.Lowercase

set_option autoImplicit false

namespace TuiTemplate.Text

/-- The small letters that only one letter has as its small form, but for itself. The letter k is
not among them, which is the small form of the sign for kelvin too. -/
def IsPlainSmall (c : Char) : Prop := 97 ≤ c.toNat ∧ c.toNat ≤ 122 ∧ c ≠ 'k'

instance (c : Char) : Decidable (IsPlainSmall c) :=
  inferInstanceAs (Decidable (97 ≤ c.toNat ∧ c.toNat ≤ 122 ∧ c ≠ 'k'))

/-- Where the table of small forms leads to a letter from a to z, it starts from a capital one or
from the sign for kelvin. -/
theorem smallRuns_to_ascii : ∀ run ∈ smallRuns,
    run = (65, 90, 1, 32) ∨ run = (8490, 8490, 1, -8383) ∨
      (run.2.1 : Int) + run.2.2.2 < 97 ∨ 122 < (run.1 : Int) + run.2.2.2 := by
  decide +kernel

theorem letter_pair : ∀ place < 26,
    smallLetter (Char.ofNat (65 + place)) = [Char.ofNat (97 + place)] ∧
      capitalize (Char.ofNat (65 + place)) = [Char.ofNat (65 + place)] ∧
      capitalize (Char.ofNat (97 + place)) = [Char.ofNat (65 + place)] := by
  decide +kernel

/-- A letter has the same capital form as its small one. -/
theorem capitalize_eq_of_smallLetter {c small : Char} (plain : IsPlainSmall small)
    (lowered : smallLetter c = [small]) : capitalize c = capitalize small := by
  obtain ⟨least, most, notK⟩ := plain
  rw [smallLetter] at lowered
  split at lowered
  · cases lowered
  split at lowered
  · next first last step distance found =>
      have reached := List.find?_some found
      simp only [Bool.and_eq_true, decide_eq_true_eq] at reached
      obtain ⟨⟨lower, upper⟩, -⟩ := reached
      have number : small.toNat = (c.toNat + distance).toNat := by
        have same := congrArg Char.toNat (List.singleton_inj.mp lowered)
        rw [Char.toNat_ofNat] at same
        split at same <;> omega
      rcases smallRuns_to_ascii _ (List.mem_of_find?_eq_some found) with run | run | below | above
      · simp only [Prod.mk.injEq] at run
        obtain ⟨rfl, rfl, -, rfl⟩ := run
        obtain ⟨-, own, raised⟩ := letter_pair (c.toNat - 65) (by omega)
        have pair := own.trans raised.symm
        rwa [show 65 + (c.toNat - 65) = c.toNat by omega,
          show 97 + (c.toNat - 65) = small.toNat by omega, Char.ofNat_toNat, Char.ofNat_toNat]
          at pair
      · simp only [Prod.mk.injEq] at run
        obtain ⟨rfl, rfl, -, rfl⟩ := run
        have isK : small.toNat = 107 := by omega
        exact absurd (by rw [← Char.ofNat_toNat small, isK]) notK
      · dsimp only at below
        omega
      · dsimp only at above
        omega
  · rw [List.singleton_inj.mp lowered]

theorem smallLetter_cases (c : Char) :
    smallLetter c = ['i', '\u0307'] ∨ ∃ small, smallLetter c = [small] := by
  rw [smallLetter]
  split
  · exact .inl rfl
  split
  · exact .inr ⟨_, rfl⟩
  · exact .inr ⟨c, rfl⟩

/-- The capital form of a text follows from its small form, if that has no other letters than those
from a to z without k. -/
theorem flatMap_capitalize_of_lowerAfter {before cs small : List Char}
    (plain : ∀ c ∈ small, IsPlainSmall c) (lowered : lowerAfter before cs = small) :
    cs.flatMap capitalize = small.flatMap capitalize := by
  induction cs generalizing before small with
  | nil =>
      cases lowered
      rfl
  | cons c rest ih =>
      subst lowered
      rw [lowerAfter] at plain ⊢
      split at plain
      · exact absurd (plain 'ς' (List.mem_append_left _ List.mem_cons_self)) (by decide)
      · next usual =>
          rw [if_neg usual]
          rcases smallLetter_cases c with dotted | ⟨letter, single⟩
          · rw [dotted] at plain
            exact absurd (plain '\u0307' (by simp)) (by decide)
          · rw [single] at plain ⊢
            have here := plain letter List.mem_cons_self
            have later : ∀ d ∈ lowerAfter (c :: before) rest, IsPlainSmall d :=
              fun d inside => plain d (List.mem_append_right [letter] inside)
            rw [List.flatMap_cons, List.singleton_append, List.flatMap_cons, ← ih later rfl,
              capitalize_eq_of_smallLetter here single]

/-- The capital letters whose small forms are plain. -/
def IsPlainCapital (c : Char) : Prop := 65 ≤ c.toNat ∧ c.toNat ≤ 90 ∧ c ≠ 'K'

instance (c : Char) : Decidable (IsPlainCapital c) :=
  inferInstanceAs (Decidable (65 ≤ c.toNat ∧ c.toNat ≤ 90 ∧ c ≠ 'K'))

theorem IsPlainCapital.exists_small {c : Char} (capital : IsPlainCapital c) :
    ∃ small, smallLetter c = [small] ∧ IsPlainSmall small ∧ capitalize small = [c] := by
  obtain ⟨least, most, notK⟩ := capital
  obtain ⟨lowered, -, raised⟩ := letter_pair (c.toNat - 65) (by omega)
  have back : Char.ofNat (65 + (c.toNat - 65)) = c := by
    rw [show 65 + (c.toNat - 65) = c.toNat by omega, Char.ofNat_toNat]
  rw [back] at lowered raised
  have number : (Char.ofNat (97 + (c.toNat - 65))).toNat = 97 + (c.toNat - 65) := by
    rw [Char.toNat_ofNat, if_pos (.inl (by omega))]
  refine ⟨_, lowered, ⟨by omega, by omega, fun isK => notK ?_⟩, raised⟩
  have place : c.toNat = 75 := by
    have same := number.symm.trans (congrArg Char.toNat isK)
    have k : 'k'.toNat = 107 := rfl
    omega
  rw [← Char.ofNat_toNat c, place]

/-- Plain capitals come back from their small forms. -/
theorem flatMap_capitalize_lowerAfter (before : List Char) {cs : List Char}
    (capital : ∀ c ∈ cs, IsPlainCapital c) :
    (∀ d ∈ lowerAfter before cs, IsPlainSmall d) ∧
      (lowerAfter before cs).flatMap capitalize = cs := by
  induction cs generalizing before with
  | nil => exact ⟨nofun, rfl⟩
  | cons c rest ih =>
      obtain ⟨small, lowered, plain, raised⟩ := (capital c List.mem_cons_self).exists_small
      obtain ⟨plainRest, restored⟩ := ih (c :: before) fun d inside =>
        capital d (List.mem_cons_of_mem c inside)
      have usual : c ≠ 'Σ' := by
        rintro rfl
        exact absurd (capital 'Σ' List.mem_cons_self) (by decide)
      have step : lowerAfter before (c :: rest) = small :: lowerAfter (c :: before) rest := by
        rw [lowerAfter, decide_eq_false usual, lowered]
        rfl
      rw [step, List.flatMap_cons, raised, restored]
      exact ⟨List.forall_mem_cons.mpr ⟨plain, plainRest⟩, rfl⟩

/-- A name in plain capitals is the capital form of each text that has the same small form. -/
theorem upper_eq_of_lower_eq {text name : String} (capital : ∀ c ∈ name.toList, IsPlainCapital c)
    (same : lower text = lower name) : upper text = name := by
  obtain ⟨plain, restored⟩ := flatMap_capitalize_lowerAfter [] capital
  rw [upper, flatMap_capitalize_of_lowerAfter plain (String.ofList_injective same), restored,
    String.ofList_toList]

end TuiTemplate.Text
