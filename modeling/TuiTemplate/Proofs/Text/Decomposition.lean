import Mathlib.Data.List.Infix
import TuiTemplate.Proofs.Text.Placeholder

set_option autoImplicit false

namespace TuiTemplate

namespace Placeholder

def spelledKey (key : List Char) : List Char := '{' :: '{' :: key ++ ['}', '}']

def OpensAt (text : List Char) (i : Nat) : Prop := ['{', '{'] <+: text.drop i

def ClosesOnLine (text : List Char) : Prop := ['}', '}'] <:+: text.takeWhile (· ≠ '\n')

namespace Pieces

/-- For each character of the text that pieces make up, whether it stands outside the
placeholders. -/
def outside (p : Pieces) : List Bool :=
  p.lead.map (fun _ => true) ++ p.slots.flatMap fun slot =>
    (spelledKey slot.1).map (fun _ => false) ++ slot.2.map fun _ => true

/-- A cut of a text at placeholders. Keys stay on their line and end at the first pair of closing
braces, and a pair of opening braces outside of the placeholders is not closed on its line. -/
structure Decomposes (p : Pieces) (text : List Char) : Prop where
  spelled : p.joined spelledKey = text
  onLine : ∀ slot ∈ p.slots, '\n' ∉ slot.1
  shortest : ∀ slot ∈ p.slots, ¬ ['}', '}'] <:+: slot.1 ++ ['}']
  leftmost : ∀ i, p.outside[i]? = some true → OpensAt text i →
    ¬ ClosesOnLine (text.drop (i + 2))

end Pieces

section closing

theorem pair_prefix_iff {brace : Char} {cs : List Char} :
    [brace, brace] <+: cs ↔ ∃ rest, cs = brace :: brace :: rest := by
  constructor
  · rintro ⟨rest, spelled⟩
    exact ⟨rest, spelled.symm⟩
  · rintro ⟨rest, rfl⟩
    exact List.prefix_append [brace, brace] rest

theorem not_pair_prefix_cons {brace c : Char} {cs : List Char}
    (notPair : ∀ rest, c = brace → cs = brace :: rest → False) : ¬ [brace, brace] <+: c :: cs := by
  intro pair
  obtain ⟨rest, spelled⟩ := pair_prefix_iff.mp pair
  obtain ⟨same, tail⟩ := List.cons.inj spelled
  exact notPair rest same tail

theorem closing_cons {c : Char} {cs : List Char} (notPair : ¬ ['}', '}'] <+: c :: cs)
    (onLine : c ≠ '\n') :
    closing (c :: cs) = (closing cs).map fun found => (c :: found.1, found.2) := by
  rw [closing, if_neg onLine]
  rintro rest rfl rfl
  exact notPair (pair_prefix_iff.mpr ⟨rest, rfl⟩)

theorem prefix_spelled (key rest : List Char) : key ++ ['}'] <+: key ++ '}' :: '}' :: rest :=
  ⟨'}' :: rest, by rw [List.append_assoc, List.singleton_append]⟩

/-- A key ends at the first pair of braces, with which its own last brace counts. -/
theorem closing_spelled {key : List Char} (onLine : '\n' ∉ key)
    (shortest : ¬ ['}', '}'] <:+: key ++ ['}']) (rest : List Char) :
    closing (key ++ '}' :: '}' :: rest) = some (key, rest) := by
  induction key with
  | nil => rfl
  | cons c key ih =>
      rw [List.mem_cons, not_or] at onLine
      rw [List.cons_append, List.infix_cons_iff, not_or] at shortest
      have notPair : ¬ ['}', '}'] <+: c :: (key ++ '}' :: '}' :: rest) := by
        -- of the closing pair only its first brace could complete a pair that begins at `c`
        intro pair
        have whole := prefix_spelled (c :: key) rest
        have short : ['}', '}'].length ≤ (c :: (key ++ ['}'])).length := by simp
        exact shortest.1 (List.prefix_of_prefix_length_le pair whole short)
      rw [List.cons_append, closing_cons notPair (Ne.symm onLine.1), ih onLine.2 shortest.2,
        Option.map_some]

theorem spelled_of_closing {cs key rest : List Char} (found : closing cs = some (key, rest)) :
    cs = key ++ '}' :: '}' :: rest ∧ '\n' ∉ key ∧ ¬ ['}', '}'] <:+: key ++ ['}'] := by
  fun_induction closing cs generalizing key with
  | case1 => cases found
  | case2 r =>
      cases found
      exact ⟨rfl, List.not_mem_nil, by decide⟩
  | case3 r notPair => cases found
  | case4 c r notPair plain ih =>
      obtain ⟨⟨inner, after⟩, closed, same⟩ := Option.map_eq_some_iff.mp found
      cases same
      obtain ⟨rfl, onLine, shortest⟩ := ih closed
      refine ⟨rfl, ?_, ?_⟩
      · rw [List.mem_cons, not_or]
        exact ⟨Ne.symm plain, onLine⟩
      · rw [List.cons_append, List.infix_cons_iff, not_or]
        refine ⟨?_, shortest⟩
        intro pair
        exact not_pair_prefix_cons notPair (pair.trans (prefix_spelled (c :: inner) after))

/-- Braces close a key if there are any on the line. -/
theorem closing_eq_none_iff {cs : List Char} : closing cs = none ↔ ¬ ClosesOnLine cs := by
  unfold ClosesOnLine
  fun_induction closing cs with
  | case1 => simp
  | case2 r =>
      have pair : ['}', '}'] <+: ('}' :: '}' :: r).takeWhile (· ≠ '\n') := by
        simp
      simp only [reduceCtorEq, pair.isInfix, not_true_eq_false]
  | case3 r notPair => simp
  | case4 c r notPair plain ih =>
      have line : (c :: r).takeWhile (· ≠ '\n') = c :: r.takeWhile (· ≠ '\n') := by
        simp [plain]
      have noPair : ¬ ['}', '}'] <+: c :: r.takeWhile (· ≠ '\n') := by
        rw [← line]
        exact fun pair => not_pair_prefix_cons notPair (pair.trans (List.takeWhile_prefix _))
      rw [Option.map_eq_none_iff, ih, line, List.infix_cons_iff, or_iff_right noPair]

end closing

namespace Pieces

variable {p : Pieces} {text : List Char}

/-- Pieces are nothing, or begin with a character or with a placeholder. -/
theorem front_induction {motive : Pieces → Prop} (nothing : motive none)
    (char : ∀ c rest, motive rest → motive (addChar c rest))
    (slot : ∀ key rest, motive rest → motive (addSlot key rest)) (p : Pieces) : motive p := by
  obtain ⟨lead, slots⟩ := p
  induction slots generalizing lead with
  | nil =>
      induction lead with
      | nil => exact nothing
      | cons c lead ih => exact char c ⟨lead, []⟩ ih
  | cons first slots later =>
      induction lead with
      | nil => exact slot first.1 ⟨first.2, slots⟩ (later first.2)
      | cons c lead ih => exact char c ⟨lead, first :: slots⟩ ih

theorem outside_addSlot (key : List Char) :
    (p.addSlot key).outside = (spelledKey key).map (fun _ => false) ++ p.outside := by
  simp only [outside, addSlot, List.map_nil, List.nil_append, List.flatMap_cons, List.append_assoc]

theorem decomposes_none_iff : none.Decomposes text ↔ text = [] := by
  constructor
  · intro cut
    exact cut.spelled.symm
  · rintro rfl
    refine ⟨rfl, ?_, ?_, ?_⟩
    · simp [none]
    · simp [none]
    · simp [none, outside]

theorem decomposes_addChar_iff {c : Char} {cs : List Char} :
    (p.addChar c).Decomposes (c :: cs) ↔
      p.Decomposes cs ∧ (OpensAt (c :: cs) 0 → ¬ ClosesOnLine (cs.drop 1)) := by
  constructor
  · intro cut
    refine ⟨⟨(List.cons.inj cut.spelled).2, cut.onLine, cut.shortest, ?_⟩, cut.leftmost 0 rfl⟩
    intro i standing
    exact cut.leftmost (i + 1) standing
  · rintro ⟨cut, first⟩
    refine ⟨congrArg (List.cons c) cut.spelled, cut.onLine, cut.shortest, ?_⟩
    intro i standing
    cases i with
    | zero => exact first
    | succ i => exact cut.leftmost i standing

/-- What stands outside the placeholders does so behind the first of them. -/
theorem outside_addSlot_iff {key : List Char} {i : Nat} :
    (p.addSlot key).outside[i]? = some true ↔
      ∃ j, i = (spelledKey key).length + j ∧ p.outside[j]? = some true := by
  have front : ((spelledKey key).map fun _ => false).length = (spelledKey key).length :=
    List.length_map _
  rw [outside_addSlot]
  constructor
  · intro standing
    by_cases within : i < (spelledKey key).length
    · rw [List.getElem?_append_left (by omega), List.getElem?_map,
        List.getElem?_eq_getElem within] at standing
      cases standing
    · rw [List.getElem?_append_right (by omega), front] at standing
      exact ⟨i - (spelledKey key).length, by omega, standing⟩
  · rintro ⟨j, rfl, standing⟩
    rw [List.getElem?_append_right (by omega), front, Nat.add_sub_cancel_left]
    exact standing

theorem decomposes_addSlot_iff {key after : List Char} :
    (p.addSlot key).Decomposes (spelledKey key ++ after) ↔
      p.Decomposes after ∧ '\n' ∉ key ∧ ¬ ['}', '}'] <:+: key ++ ['}'] := by
  have later (n : Nat) :
      (spelledKey key ++ after).drop ((spelledKey key).length + n) = after.drop n :=
    List.drop_length_add_append n
  have opens (j : Nat) : OpensAt (spelledKey key ++ after) ((spelledKey key).length + j) ↔
      OpensAt after j := by
    rw [OpensAt, OpensAt, later]
  have slots : (p.addSlot key).slots = (key, p.lead) :: p.slots := rfl
  constructor
  · intro cut
    have first : (key, p.lead) ∈ (p.addSlot key).slots := by
      rw [slots]
      exact List.mem_cons_self
    refine ⟨⟨?_, ?_, ?_, ?_⟩, cut.onLine _ first, cut.shortest _ first⟩
    · have spelled := cut.spelled
      rw [joined_addSlot] at spelled
      exact List.append_cancel_left spelled
    · intro slot inside
      exact cut.onLine slot (List.mem_cons_of_mem _ inside)
    · intro slot inside
      exact cut.shortest slot (List.mem_cons_of_mem _ inside)
    · intro j standing opening
      have unclosed := cut.leftmost _ (outside_addSlot_iff.mpr ⟨j, rfl, standing⟩)
        ((opens j).mpr opening)
      rwa [Nat.add_assoc, later] at unclosed
  · rintro ⟨cut, onLine, shortest⟩
    refine ⟨?_, ?_, ?_, ?_⟩
    · rw [joined_addSlot, cut.spelled]
    · rw [slots, List.forall_mem_cons]
      exact ⟨onLine, cut.onLine⟩
    · rw [slots, List.forall_mem_cons]
      exact ⟨shortest, cut.shortest⟩
    · intro i standing opening
      obtain ⟨j, rfl, within⟩ := outside_addSlot_iff.mp standing
      rw [Nat.add_assoc, later]
      exact cut.leftmost j within ((opens j).mp opening)

end Pieces

theorem opensAt_zero_iff {cs : List Char} :
    OpensAt cs 0 ↔ ∃ rest, cs = '{' :: '{' :: rest := by
  rw [OpensAt, List.drop_zero, pair_prefix_iff]

theorem fill_eq (subs : Substitutions) (key : List Char) :
    fill subs key =
      ((subs.get? (String.ofList key)).map String.toList).getD (spelledKey key) := by
  rw [fill]
  cases subs.get? (String.ofList key) with
  | none => rfl
  | some value => rfl

theorem spelledKey_append (key after : List Char) :
    spelledKey key ++ after = '{' :: '{' :: (key ++ '}' :: '}' :: after) := by
  simp only [spelledKey, List.cons_append, List.append_assoc, List.nil_append]

/-- Going through a text from the left cuts it at its placeholders. -/
theorem decomposes_piecesOf (cs : List Char) : (piecesOf cs).Decomposes cs := by
  fun_induction piecesOf cs with
  | case1 => exact Pieces.decomposes_none_iff.mpr rfl
  | case2 rest key after found shorter ih =>
      obtain ⟨rfl, onLine, shortest⟩ := spelled_of_closing found
      rw [← spelledKey_append]
      exact Pieces.decomposes_addSlot_iff.mpr ⟨ih, onLine, shortest⟩
  | case3 rest unfound ih =>
      exact Pieces.decomposes_addChar_iff.mpr ⟨ih, fun _ => closing_eq_none_iff.mp unfound⟩
  | case4 c rest notPair ih =>
      refine Pieces.decomposes_addChar_iff.mpr ⟨ih, ?_⟩
      intro opening
      obtain ⟨tail, pair⟩ := opensAt_zero_iff.mp opening
      obtain ⟨rfl, rfl⟩ := List.cons.inj pair
      exact absurd rfl (notPair tail rfl)

/-- A third brace belongs to the key, and a newline keeps a placeholder from being one. -/
example :
    piecesOf ['{', '{', '{', 'a', '}', '}', '}', '{', '{', 'b', '\n', '}', '}'] =
      ⟨[], [(['{', 'a'], ['}', '{', '{', 'b', '\n', '}', '}'])]⟩ := by
  cbv

/-- No other way of cutting a text at placeholders is a cut in the sense of `Decomposes`. The
induction is on the pieces, for the text is what they spell. -/
theorem Pieces.Decomposes.eq_piecesOf {p : Pieces} {cs : List Char} (cut : p.Decomposes cs) :
    p = piecesOf cs := by
  induction p using Pieces.front_induction generalizing cs with
  | nothing =>
      rw [decomposes_none_iff.mp cut, piecesOf_nil]
  | char c rest ih =>
      obtain ⟨after, rfl⟩ : ∃ after, cs = c :: after := ⟨_, cut.spelled.symm⟩
      obtain ⟨later, first⟩ := decomposes_addChar_iff.mp cut
      rw [ih later]
      -- a pair in front that opens nothing is passed one brace at a time
      by_cases opening : OpensAt (c :: after) 0
      · have unclosed := closing_eq_none_iff.mpr (first opening)
        obtain ⟨tail, pair⟩ := opensAt_zero_iff.mp opening
        obtain ⟨rfl, rfl⟩ := List.cons.inj pair
        exact (piecesOf_opening_of_none unclosed).symm
      · rw [piecesOf_cons_of_not_pair]
        intro tail pair
        exact opening (opensAt_zero_iff.mpr ⟨tail, pair⟩)
  | slot key rest ih =>
      obtain ⟨after, rfl⟩ : ∃ after, cs = spelledKey key ++ after :=
        ⟨_, cut.spelled.symm.trans (joined_addSlot spelledKey key)⟩
      obtain ⟨later, onLine, shortest⟩ := decomposes_addSlot_iff.mp cut
      rw [spelledKey_append, piecesOf_opening_of_some (closing_spelled onLine shortest after),
        ← ih later]

end Placeholder

/-- Interpolation follows the one way of cutting a text at placeholders: each key gives way to its
replacement where it has one, and all else is kept as it is. -/
theorem interpolate_decomposition (text : String) :
    ∃ p : Placeholder.Pieces, p.Decomposes text.toList ∧
      (∀ other : Placeholder.Pieces, other.Decomposes text.toList → other = p) ∧
      placeholders text = p.slots.map (fun slot => String.ofList slot.1) ∧
      (∀ subs : Substitutions, (interpolate text subs).toList =
        p.joined fun key =>
          ((subs.get? (String.ofList key)).map String.toList).getD (Placeholder.spelledKey key)) ∧
      ∀ subs : Substitutions, (∀ key ∈ placeholders text, subs.get? key = none) →
        interpolate text subs = text := by
  let cut := Placeholder.piecesOf text.toList
  have spelled : cut.joined Placeholder.spelledKey = text.toList :=
    (Placeholder.decomposes_piecesOf text.toList).spelled
  have filled (subs : Substitutions) : (interpolate text subs).toList =
      cut.joined fun key =>
        ((subs.get? (String.ofList key)).map String.toList).getD (Placeholder.spelledKey key) := by
    rw [interpolate, String.toList_ofList, Placeholder.interpolateChars,
      Placeholder.Pieces.fillIn_eq_joined]
    apply Placeholder.Pieces.joined_congr
    intro slot inside
    exact Placeholder.fill_eq subs slot.1
  refine ⟨cut, Placeholder.decomposes_piecesOf text.toList, fun other => (·.eq_piecesOf), rfl,
    filled, ?_⟩
  intro subs unset
  apply String.toList_injective
  rw [filled, ← spelled]
  apply Placeholder.Pieces.joined_congr
  intro slot inside
  rw [unset _ (List.mem_map_of_mem inside), Option.map_none, Option.getD_none]

end TuiTemplate
