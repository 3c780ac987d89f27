import Mathlib.Data.List.DropRight
import TuiTemplate.Text.Blank

set_option autoImplicit false

namespace TuiTemplate.Text

structure Trimmed (cs : List Char) : Prop where
  front : ∀ c, cs.head? = some c → isBlank c = false
  back : ∀ c, cs.getLast? = some c → isBlank c = false

theorem dropTrailing_eq_rdropWhile (p : Char → Bool) (cs : List Char) :
    dropTrailing p cs = cs.rdropWhile p := rfl

/-- What is trimmed off is a part at each end, and blank. -/
theorem exists_append_trimChars (cs : List Char) :
    ∃ before after, cs = before ++ (trimChars cs ++ after) ∧
      (∀ c ∈ before, isBlank c = true) ∧ ∀ c ∈ after, isBlank c = true := by
  refine ⟨cs.takeWhile isBlank, (cs.dropWhile isBlank).rtakeWhile isBlank, ?_, ?_, ?_⟩
  · rw [trimChars, dropTrailing_eq_rdropWhile, List.rdropWhile_append_rtakeWhile,
      List.takeWhile_append_dropWhile]
  · intro c inside
    exact List.mem_takeWhile_imp inside
  · intro c inside
    exact List.mem_rtakeWhile_imp inside

theorem infix_trimChars (cs : List Char) : trimChars cs <:+: cs := by
  obtain ⟨before, after, whole, -, -⟩ := exists_append_trimChars cs
  exact ⟨before, after, by rw [List.append_assoc, ← whole]⟩

theorem mem_of_mem_trimChars {c : Char} {cs : List Char} (inside : c ∈ trimChars cs) :
    c ∈ cs := (infix_trimChars cs).subset inside

theorem trimmed_trimChars (cs : List Char) : Trimmed (trimChars cs) := by
  constructor
  · intro c first
    obtain ⟨after, rest⟩ := List.rdropWhile_prefix isBlank (cs.dropWhile isBlank)
    have kept : (cs.dropWhile isBlank).head? = some c := by
      rw [← rest, List.head?_append, ← dropTrailing_eq_rdropWhile, ← trimChars, first]
      rfl
    have sharp := List.head?_dropWhile_not isBlank cs
    rw [kept] at sharp
    simpa using sharp
  · intro c last
    have filled : (cs.dropWhile isBlank).rdropWhile isBlank ≠ [] := by
      intro empty
      rw [trimChars, dropTrailing_eq_rdropWhile, empty] at last
      cases last
    have sharp := List.rdropWhile_last_not isBlank _ filled
    rw [trimChars, dropTrailing_eq_rdropWhile, List.getLast?_eq_getLast_of_ne_nil filled,
      Option.some.injEq] at last
    rw [last] at sharp
    simpa using sharp

theorem dropWhile_isBlank_of_front {cs : List Char}
    (front : ∀ c, cs.head? = some c → isBlank c = false) : cs.dropWhile isBlank = cs := by
  cases cs with
  | nil => rfl
  | cons c rest => rw [List.dropWhile_cons_of_neg (by simp [front c rfl])]

theorem trimChars_of_trimmed {cs : List Char} (trimmed : Trimmed cs) : trimChars cs = cs := by
  rw [trimChars, dropWhile_isBlank_of_front trimmed.front, dropTrailing_eq_rdropWhile,
    List.rdropWhile_eq_self_iff]
  intro filled
  have sharp := trimmed.back _ (List.getLast?_eq_getLast_of_ne_nil filled)
  simp [sharp]

theorem trimChars_append_of_blank {pad : List Char} (blank : ∀ c ∈ pad, isBlank c = true)
    (cs : List Char) : trimChars (pad ++ cs) = trimChars cs := by
  rw [trimChars, trimChars, List.dropWhile_append_of_pos blank]

theorem trimChars_append_trailing {pad : List Char} (blank : ∀ c ∈ pad, isBlank c = true)
    (cs : List Char) : trimChars (cs ++ pad) = trimChars cs := by
  have dropped (front : List Char) : dropTrailing isBlank (front ++ pad) =
      dropTrailing isBlank front := by
    rw [dropTrailing, List.reverse_append, List.dropWhile_append_of_pos (by simpa using blank),
      dropTrailing]
  rw [trimChars, List.dropWhile_append, trimChars]
  split
  · next none =>
    rw [List.dropWhile_eq_nil_iff.mpr blank, List.isEmpty_iff.mp none]
  · exact dropped _

/-- Nothing is trimmed off at the front of a text that starts with no blank. -/
theorem trimChars_begins {cs : List Char} (front : ∀ c, cs.head? = some c → isBlank c = false) :
    trimChars cs <+: cs := by
  rw [trimChars, dropWhile_isBlank_of_front front]
  exact List.rdropWhile_prefix isBlank cs

theorem infix_of_blank_append {part pad cs : List Char} (inside : part <:+: pad ++ cs)
    (blank : ∀ c ∈ pad, isBlank c = true) (filled : part ≠ [])
    (front : ∀ c, part.head? = some c → isBlank c = false) : part <:+: cs := by
  induction pad with
  | nil => exact inside
  | cons c pad ih =>
      obtain ⟨here, later⟩ := List.forall_mem_cons.mp blank
      rcases List.infix_cons_iff.mp inside with begins | deeper
      · obtain ⟨first, rest, rfl⟩ := List.exists_cons_of_ne_nil filled
        obtain ⟨rfl, -⟩ := List.cons_prefix_cons.mp begins
        have sharp := front first rfl
        rw [here] at sharp
        cases sharp
      · exact ih deeper later

/-- A part of a text that has no blank at its ends is left when the text is trimmed. -/
theorem infix_trimChars_of_trimmed {part cs : List Char} (inside : part <:+: cs)
    (trimmed : Trimmed part) (filled : part ≠ []) : part <:+: trimChars cs := by
  obtain ⟨before, after, whole, blankBefore, blankAfter⟩ := exists_append_trimChars cs
  rw [whole] at inside
  have inFront := infix_of_blank_append inside blankBefore filled trimmed.front
  -- what is behind is in front when both texts are reversed
  rw [← List.reverse_infix, List.reverse_append] at inFront
  rw [← List.reverse_infix]
  apply infix_of_blank_append inFront
  · simpa using blankAfter
  · simpa using filled
  · rw [List.head?_reverse]
    exact trimmed.back

/-- A text that begins with no blank is trimmed already if what is left of it stands at its end. -/
theorem trimChars_eq_self_of_suffix {cs : List Char}
    (front : ∀ c, cs.head? = some c → isBlank c = false) (ends : trimChars cs <:+ cs) :
    trimChars cs = cs := by
  apply trimChars_of_trimmed ⟨front, ?_⟩
  intro c last
  cases left : (trimChars cs).getLast? with
  | some d =>
      obtain ⟨before, spelled⟩ := ends
      rw [← spelled, List.getLast?_append, left, Option.some_or, Option.some.injEq] at last
      subst last
      exact (trimmed_trimChars cs).back d left
  | none =>
      -- Such a text is blank all through, but begins with no blank.
      obtain ⟨before, after, whole, blankBefore, blankAfter⟩ := exists_append_trimChars cs
      rw [List.getLast?_eq_none_iff.mp left, List.nil_append] at whole
      have blank : ∀ d ∈ cs, isBlank d = true := by
        rw [whole]
        exact List.forall_mem_append.mpr ⟨blankBefore, blankAfter⟩
      obtain ⟨first, rest, rfl⟩ := List.exists_cons_of_ne_nil (List.ne_nil_of_mem
        (List.mem_of_getLast? last))
      have sharp := front first rfl
      rw [blank first List.mem_cons_self] at sharp
      cases sharp

/-- Nothing is trimmed off at the back of a text that ends with no blank. -/
theorem getLast?_trimChars {cs : List Char} {c : Char} (last : cs.getLast? = some c)
    (sharp : isBlank c = false) : (trimChars cs).getLast? = some c := by
  have filled : cs.dropWhile isBlank ≠ [] := by
    intro empty
    have blank := List.dropWhile_eq_nil_iff.mp empty c (List.mem_of_getLast? last)
    rw [sharp] at blank
    cases blank
  have same : (cs.dropWhile isBlank).getLast? = some c := by
    rw [← List.takeWhile_append_dropWhile (p := isBlank) (l := cs), List.getLast?_append,
      List.getLast?_eq_getLast_of_ne_nil filled, Option.some_or] at last
    rw [List.getLast?_eq_getLast_of_ne_nil filled, last]
  have kept : (cs.dropWhile isBlank).rdropWhile isBlank = cs.dropWhile isBlank := by
    rw [List.rdropWhile_eq_self_iff]
    intro _
    rw [List.getLast?_eq_getLast_of_ne_nil filled, Option.some.injEq] at same
    simp [same, sharp]
  rw [trimChars, dropTrailing_eq_rdropWhile, kept, same]

end TuiTemplate.Text
