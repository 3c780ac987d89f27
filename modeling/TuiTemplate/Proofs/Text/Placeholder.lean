import TuiTemplate.Placeholder

set_option autoImplicit false

namespace TuiTemplate

def IsQuote (c : Char) : Prop := c = '"' ∨ c = '\''

theorem IsQuote.ne_opening {q : Char} (quote : IsQuote q) : q ≠ '{' := by
  rcases quote with rfl | rfl <;> decide

theorem IsQuote.ne_closing {q : Char} (quote : IsQuote q) : q ≠ '}' := by
  rcases quote with rfl | rfl <;> decide

def QuotedBy (q : Char) (text : String) : Prop :=
  IsQuote q ∧ ∃ inner, text.toList = q :: (inner ++ [q])

namespace Placeholder

theorem piecesOf_nil : piecesOf [] = .none := by
  rw [piecesOf]

theorem piecesOf_cons_of_not_pair {c : Char} {cs : List Char}
    (notPair : ∀ rest, c :: cs ≠ '{' :: '{' :: rest) :
    piecesOf (c :: cs) = (piecesOf cs).addChar c := by
  rw [piecesOf]
  rintro rest rfl rfl
  exact notPair rest rfl

theorem piecesOf_cons {c : Char} (noBrace : c ≠ '{') (cs : List Char) :
    piecesOf (c :: cs) = (piecesOf cs).addChar c := by
  apply piecesOf_cons_of_not_pair
  intro rest same
  exact noBrace (List.cons.inj same).1

theorem slots_piecesOf_of_not_mem {cs : List Char} (plain : '{' ∉ cs) :
    (piecesOf cs).slots = [] := by
  induction cs with
  | nil => rw [piecesOf_nil, Pieces.none]
  | cons c rest ih =>
      rw [List.mem_cons, not_or] at plain
      rw [piecesOf_cons (Ne.symm plain.1)]
      exact ih plain.2

theorem piecesOf_opening_of_some {rest key after : List Char}
    (found : closing rest = some (key, after)) :
    piecesOf ('{' :: '{' :: rest) = (piecesOf after).addSlot key := by
  rw [piecesOf]
  split
  · next other left again =>
    rw [found] at again
    cases again
    rfl
  · next unfound =>
    rw [found] at unfound
    cases unfound

theorem piecesOf_opening_of_none {rest : List Char} (unfound : closing rest = none) :
    piecesOf ('{' :: '{' :: rest) = (piecesOf ('{' :: rest)).addChar '{' := by
  rw [piecesOf]
  split
  · next key after found =>
    rw [unfound] at found
    cases found
  · rfl

namespace Pieces

variable {p : Pieces}

def joined (textOf : List Char → List Char) (p : Pieces) : List Char :=
  p.lead ++ p.slots.flatMap fun slot => textOf slot.1 ++ slot.2

theorem fillIn_eq_joined (subs : Substitutions) : p.fillIn subs = p.joined (fill subs) := rfl

theorem joined_congr {first second : List Char → List Char}
    (agree : ∀ slot ∈ p.slots, first slot.1 = second slot.1) :
    p.joined first = p.joined second := by
  have each : ∀ slot ∈ p.slots, first slot.1 ++ slot.2 = second slot.1 ++ slot.2 := by
    intro slot inside
    rw [agree slot inside]
  rw [joined, joined, List.flatMap_def, List.flatMap_def, List.map_congr_left each]

theorem joined_addSlot (textOf : List Char → List Char) (key : List Char) :
    (p.addSlot key).joined textOf = textOf key ++ p.joined textOf := by
  simp only [joined, addSlot, List.nil_append, List.flatMap_cons, List.append_assoc]

/-- Whether the second pieces are those of the first text with a character behind it: that
character cuts no placeholder and makes none, and it comes last whatever the keys give way to. -/
structure FollowedBy (c : Char) (p longer : Pieces) : Prop where
  keys : longer.slots.map Prod.fst = p.slots.map Prod.fst
  joined : ∀ textOf, longer.joined textOf = p.joined textOf ++ [c]

namespace FollowedBy

variable {c : Char} {longer : Pieces}

theorem addChar (followed : FollowedBy c p longer) (d : Char) :
    FollowedBy c (p.addChar d) (longer.addChar d) :=
  ⟨followed.keys, fun textOf => congrArg (List.cons d) (followed.joined textOf)⟩

theorem addSlot (followed : FollowedBy c p longer) (key : List Char) :
    FollowedBy c (p.addSlot key) (longer.addSlot key) := by
  refine ⟨congrArg (List.cons key) followed.keys, ?_⟩
  intro textOf
  rw [joined_addSlot, joined_addSlot, followed.joined, List.append_assoc]

end FollowedBy

end Pieces

section quotes

variable {q : Char}

theorem append_ne_cons {d : Char} (other : q ≠ d) {cs : List Char}
    (first : ∀ rest, cs ≠ d :: rest) (rest : List Char) : cs ++ [q] ≠ d :: rest := by
  intro same
  cases cs with
  | nil => exact other (List.cons.inj same).1
  | cons e cs =>
      obtain ⟨rfl, -⟩ := List.cons.inj same
      exact first cs rfl

theorem closing_append (noBrace : q ≠ '}') (cs : List Char) :
    closing (cs ++ [q]) = (closing cs).map fun found => (found.1, found.2 ++ [q]) := by
  fun_induction closing cs with
  | case1 =>
      rw [List.nil_append, closing]
      · split <;> rfl
      · exact fun rest same => absurd same noBrace
  | case2 rest => rfl
  | case3 rest notPair =>
      rw [List.cons_append, closing]
      · rfl
      · exact fun rest same => absurd same (by decide)
  | case4 c rest notPair plain ih =>
      rw [List.cons_append, closing, if_neg plain, ih, Option.map_map, Option.map_map]
      · rfl
      · intro tail brace
        exact append_ne_cons noBrace (fun tail => notPair tail brace) tail

/-- Only braces begin or end a placeholder, so any other character at the end of a text stays
behind the last of them. -/
theorem piecesOf_append (noOpening : q ≠ '{') (noClosing : q ≠ '}') (cs : List Char) :
    Pieces.FollowedBy q (piecesOf cs) (piecesOf (cs ++ [q])) := by
  fun_induction piecesOf cs with
  | case1 =>
      rw [List.nil_append, piecesOf_cons noOpening, piecesOf_nil]
      exact ⟨rfl, fun _ => rfl⟩
  | case2 rest key after found shorter ih =>
      have closed : closing (rest ++ [q]) = some (key, after ++ [q]) := by
        rw [closing_append noClosing, found]
        rfl
      rw [List.cons_append, List.cons_append, piecesOf_opening_of_some closed]
      exact ih.addSlot key
  | case3 rest unfound ih =>
      have unclosed : closing (rest ++ [q]) = none := by
        rw [closing_append noClosing, unfound]
        rfl
      rw [List.cons_append, List.cons_append, piecesOf_opening_of_none unclosed]
      exact ih.addChar '{'
  | case4 c rest notPair ih =>
      rw [List.cons_append, piecesOf]
      · exact ih.addChar c
      · intro tail brace
        exact append_ne_cons noOpening (fun tail => notPair tail brace) tail

/-- A pair of equal quotes around a text goes, with no regard to what stands between them. -/
theorem stripQuoteChars_quoted (quote : IsQuote q) (inner : List Char) :
    stripQuoteChars (q :: (inner ++ [q])) = inner := by
  have filled : inner ++ [q] ≠ [] := List.concat_ne_nil q inner
  have last : (inner ++ [q]).getLast? = some q := List.getLast?_concat
  rw [stripQuoteChars, if_pos ⟨quote, filled, last⟩, List.dropLast_concat]

theorem stripQuoteChars_eq_self {cs : List Char}
    (plain : ∀ q inner, IsQuote q → cs ≠ q :: (inner ++ [q])) : stripQuoteChars cs = cs := by
  cases cs with
  | nil => rfl
  | cons q rest =>
      rw [stripQuoteChars, if_neg]
      rintro ⟨quote, -, last⟩
      obtain ⟨inner, rfl⟩ := List.getLast?_eq_some_iff.mp last
      exact plain q inner quote rfl

/-- What stands between quotes is cut at its placeholders as if there were no quotes. -/
theorem piecesOf_quoted (quote : IsQuote q) (inner : List Char) :
    Pieces.FollowedBy q ((piecesOf inner).addChar q) (piecesOf (q :: (inner ++ [q]))) := by
  rw [piecesOf_cons quote.ne_opening]
  exact (piecesOf_append quote.ne_opening quote.ne_closing inner).addChar q

/-- The quotes around a text cut no placeholder and make none. -/
theorem keys_stripQuoteChars (cs : List Char) :
    (piecesOf (stripQuoteChars cs)).slots.map Prod.fst = (piecesOf cs).slots.map Prod.fst := by
  by_cases quoted : ∃ q inner, IsQuote q ∧ cs = q :: (inner ++ [q])
  · obtain ⟨q, inner, quote, rfl⟩ := quoted
    rw [stripQuoteChars_quoted quote]
    exact (piecesOf_quoted quote inner).keys.symm
  · rw [stripQuoteChars_eq_self fun q inner quote same => quoted ⟨q, inner, quote, same⟩]

theorem interpolateChars_quoted (quote : IsQuote q) (inner : List Char) (subs : Substitutions) :
    interpolateChars subs (q :: (inner ++ [q])) = q :: (interpolateChars subs inner ++ [q]) :=
  (piecesOf_quoted quote inner).joined (fill subs)

end quotes

theorem length_fill_single (key : String) (slot : List Char) :
    (fill ⟨[(key, "x")]⟩ slot).length =
      (fill ⟨[(key, "")]⟩ slot).length + if String.ofList slot == key then 1 else 0 := by
  simp only [fill, OrderedMap.get?, OrderedMap.lookupIn]
  by_cases same : key = String.ofList slot
  · simp [same]
  · simp [same, Ne.symm same]

/-- A replacement of one character makes the text longer by one for every place of its key. -/
theorem length_fillIn_single (key : String) (p : Pieces) :
    (p.fillIn ⟨[(key, "x")]⟩).length =
      (p.fillIn ⟨[(key, "")]⟩).length +
        (p.slots.map fun slot => String.ofList slot.1).count key := by
  obtain ⟨lead, slots⟩ := p
  induction slots with
  | nil => rfl
  | cons slot rest ih =>
      simp only [Pieces.fillIn, List.length_append] at ih
      simp only [Pieces.fillIn, List.flatMap_cons, List.length_append, length_fill_single,
        List.map_cons, List.count_cons]
      omega

end Placeholder

theorem placeholders_eq_nil {text : String} (plain : '{' ∉ text.toList) :
    placeholders text = [] := by
  rw [placeholders, Placeholder.slots_piecesOf_of_not_mem plain, List.map_nil]

theorem placeholders_stripQuotes (text : String) :
    placeholders (stripQuotes text) = placeholders text := by
  have keys := congrArg (List.map String.ofList) (Placeholder.keys_stripQuoteChars text.toList)
  simpa only [placeholders, stripQuotes, String.toList_ofList, List.map_map, Function.comp_def]
    using keys

/-- A text is filled in alike by substitutions that agree on the keys of its placeholders. -/
theorem renderText_congr {text : String} {first second : Substitutions}
    (agree : ∀ key ∈ placeholders text, first.get? key = second.get? key) :
    renderText text first = renderText text second := by
  rw [renderText, renderText, interpolate, interpolate, Placeholder.interpolateChars,
    Placeholder.interpolateChars, Placeholder.Pieces.fillIn_eq_joined,
    Placeholder.Pieces.fillIn_eq_joined]
  apply congrArg
  apply Placeholder.Pieces.joined_congr
  intro slot inside
  have listed : String.ofList slot.1 ∈ placeholders text := by
    rw [← placeholders_stripQuotes]
    exact List.mem_map_of_mem inside
  rw [Placeholder.fill, Placeholder.fill, agree _ listed]

/-- Every key of a placeholder makes a difference to the text. -/
theorem renderText_single_ne {text key : String} (listed : key ∈ placeholders text) :
    renderText text ⟨[(key, "x")]⟩ ≠ renderText text ⟨[(key, "")]⟩ := by
  intro same
  have counted := Placeholder.length_fillIn_single key
    (Placeholder.piecesOf (stripQuotes text).toList)
  rw [← placeholders_stripQuotes] at listed
  have present := List.count_pos_iff.mpr listed
  have lengths := congrArg (fun drawn => drawn.toList.length) same
  simp only [renderText, interpolate, Placeholder.interpolateChars, String.toList_ofList] at lengths
  rw [placeholders] at present
  omega

/-- Quotes around a text may go before or after replacements are put in, for the result is the
same and the placeholders are. Those of a replacement are never taken for them. -/
theorem renderText_quotes (text : String) (subs : Substitutions) :
    placeholders (stripQuotes text) = placeholders text ∧
    (∀ q, QuotedBy q text →
      text.toList = q :: ((stripQuotes text).toList ++ [q]) ∧
      (interpolate text subs).toList = q :: ((renderText text subs).toList ++ [q])) ∧
    ((∀ q, ¬ QuotedBy q text) →
      stripQuotes text = text ∧ renderText text subs = interpolate text subs) := by
  refine ⟨placeholders_stripQuotes text, ?_, ?_⟩
  · rintro q ⟨quote, inner, spelled⟩
    have stripped : (stripQuotes text).toList = inner := by
      rw [stripQuotes, String.toList_ofList, spelled, Placeholder.stripQuoteChars_quoted quote]
    have drawn : (renderText text subs).toList = Placeholder.interpolateChars subs inner := by
      rw [renderText, interpolate, String.toList_ofList, stripped]
    constructor
    · rw [stripped]
      exact spelled
    · rw [drawn, interpolate, String.toList_ofList, spelled]
      exact Placeholder.interpolateChars_quoted quote inner subs
  · intro unquoted
    have plain : stripQuoteChars text.toList = text.toList := by
      apply Placeholder.stripQuoteChars_eq_self
      intro q inner quote spelled
      exact unquoted q ⟨quote, inner, spelled⟩
    have kept : stripQuotes text = text := by
      rw [stripQuotes, plain, String.ofList_toList]
    exact ⟨kept, by rw [renderText, kept]⟩

/-- The quote at the end comes from the replacement, so the one at the front has no partner. -/
example : renderText "'\x7b\x7ba\x7d\x7d" ⟨[("a", "x'")]⟩ = "'x'" := by cbv

end TuiTemplate
