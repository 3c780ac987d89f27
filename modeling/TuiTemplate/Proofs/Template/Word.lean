import TuiTemplate.Proofs.Template.Grammar
import TuiTemplate.Proofs.Text.Lines
import TuiTemplate.Proofs.Text.Trim
import TuiTemplate.Template.Printer

set_option autoImplicit false

namespace TuiTemplate

open Text Grammar

/-- A text that a line may start with: it has no blank at either end, stays on its line, and does
not turn the line into a comment. -/
structure IsName (name : String) : Prop where
  trimmed : Trimmed name.toList
  unbroken : Unbroken name.toList
  noComment : ¬ ['/', '/'] <+: name.toList

/-- A text that a line may give as the value of an attribute. It does not end with a colon, which
would turn the line into a declaration. -/
structure IsValue (value : String) : Prop where
  trimmed : Trimmed value.toList
  unbroken : Unbroken value.toList
  filled : value ≠ ""
  noColon : value.toList.getLast? ≠ some ':'

/-- A key and a value that one line may set. -/
structure IsSetting (key value : String) : Prop where
  name : IsName key
  noColon : ':' ∉ key.toList
  valued : IsValue value

theorem isIgnored_eq_false_iff {text : String} :
    isIgnored text = false ↔ text.toList ≠ [] ∧ ¬ ['/', '/'] <+: text.toList := by
  unfold isIgnored
  split
  · next empty => simp [empty]
  · next rest comment => simp [comment]
  · next filled noComment =>
    simp only [true_iff]
    refine ⟨filled, ?_⟩
    rintro ⟨rest, comment⟩
    exact noComment rest comment.symm

section reading

theorem Line.ofRaw?_eq_some_iff {raw : String} {number : Nat} {line : Line} :
    ofRaw? raw number = some line ↔
      isIgnored (trim raw) = false ∧ line = ⟨trim raw, indentationOf raw, number, raw⟩ := by
  simp only [ofRaw?, Option.ite_none_left_eq_some, Option.some.injEq, Bool.not_eq_true]
  exact and_congr_right fun _ => eq_comm

theorem Line.mem_significant {first : Nat} {raws : List String} {line : Line}
    (member : line ∈ significant first raws) :
    ∃ index raw, raws[index]? = some raw ∧ ofRaw? raw (first + index) = some line := by
  induction raws generalizing first with
  | nil => cases member
  | cons raw rest ih =>
      rcases List.mem_append.mp member with here | later
      · exact ⟨0, raw, rfl, by simpa using here⟩
      · obtain ⟨index, other, there, read⟩ := ih later
        refine ⟨index + 1, other, there, ?_⟩
        rwa [Nat.add_assoc, Nat.add_comm 1] at read

theorem Line.isName_of_ofRaw? {raw : String} {number : Nat} {line : Line}
    (unbroken : Unbroken raw.toList) (read : ofRaw? raw number = some line) :
    IsName line.text := by
  obtain ⟨counts, rfl⟩ := ofRaw?_eq_some_iff.mp read
  obtain ⟨-, noComment⟩ := isIgnored_eq_false_iff.mp counts
  constructor
  · simpa [trim] using trimmed_trimChars raw.toList
  · intro c inside
    exact unbroken c (mem_of_mem_trimChars (by simpa [trim] using inside))
  · exact noComment

theorem isName_of_mem_scan {source : String} {line : Line} (member : line ∈ scan source) :
    IsName line.text := by
  obtain ⟨index, raw, here, read⟩ := Line.mem_significant member
  exact Line.isName_of_ofRaw? (unbroken_of_mem_splitLines (List.mem_of_getElem? here)) read

theorem IsName.of_front {text front back : String} (name : IsName text)
    (spelled : text = front ++ back) : IsName (trim front) := by
  have spelledChars : text.toList = front.toList ++ back.toList := by
    rw [spelled, String.toList_append]
  have chars : (trim front).toList = trimChars front.toList := by simp [trim]
  have sharp : ∀ c, front.toList.head? = some c → isBlank c = false := by
    intro c first
    apply name.trimmed.front
    rw [spelledChars, List.head?_append, first, Option.some_or]
  have begins : trimChars front.toList <+: text.toList := by
    rw [spelledChars]
    exact (trimChars_begins sharp).trans (List.prefix_append _ _)
  constructor
  · rw [chars]
    exact trimmed_trimChars front.toList
  · rw [chars]
    exact name.unbroken.of_subset fun c inside => begins.subset inside
  · rw [chars]
    intro comment
    exact name.noComment (comment.trans begins)

theorem IsName.of_declares {text kind : String} (name : IsName text)
    (declares : Declares text kind) : IsName kind := by
  obtain ⟨front, spelled, rfl⟩ := declares
  exact name.of_front spelled

/-- The line stays sharp at its end, so that something is left of the value when it is trimmed. -/
theorem IsName.of_sets {text key value : String} (name : IsName text)
    (sets : Sets text key value) : IsSetting key value := by
  obtain ⟨⟨before, after, spelled, first, rfl, rfl⟩, noDeclaration⟩ := sets
  have spelledChars : text.toList = before.toList ++ ':' :: after.toList := by simp [spelled]
  have keyChars : (trim before).toList = trimChars before.toList := by simp [trim]
  have valueChars : (trim after).toList = trimChars after.toList := by simp [trim]
  rw [exists_append_colon_iff, isDeclaration, beq_iff_eq] at noDeclaration
  cases last : after.toList.getLast? with
  | none =>
      rw [List.getLast?_eq_none_iff] at last
      rw [spelledChars, last] at noDeclaration
      simp at noDeclaration
  | some c =>
      have lastOfText : text.toList.getLast? = some c := by
        rw [spelledChars, List.getLast?_append, List.getLast?_cons, last]
        rfl
      have kept := getLast?_trimChars last (name.trimmed.back c lastOfText)
      refine ⟨name.of_front (by rw [spelled, String.append_assoc]), ?_, ?_, ?_, ?_, ?_⟩
      · rw [keyChars]
        exact fun inside => first (mem_of_mem_trimChars inside)
      · rw [valueChars]
        exact trimmed_trimChars after.toList
      · rw [valueChars]
        refine name.unbroken.of_subset fun d inside => ?_
        rw [spelledChars]
        simp [mem_of_mem_trimChars inside]
      · rintro empty
        rw [← valueChars, empty] at kept
        cases kept
      · rw [valueChars, kept, ← lastOfText]
        exact noDeclaration

end reading

section writing

theorem isBlank_colon : isBlank ':' = false := rfl

theorem toList_indentation (depth : Nat) :
    (indentation depth).toList = List.replicate (indentStep * depth) ' ' := by
  simp [indentation]

/-- Blanks before a text that has none at its ends are trimmed off. -/
theorem trim_append {text : String} (trimmed : Trimmed text.toList) {pad : String}
    (blank : ∀ c ∈ pad.toList, isBlank c = true) : trim (pad ++ text) = text := by
  rw [trim, String.toList_append, trimChars_append_of_blank blank, trimChars_of_trimmed trimmed,
    String.ofList_toList]

theorem trim_append_trailing {pad : String} (blank : ∀ c ∈ pad.toList, isBlank c = true)
    (text : String) : trim (text ++ pad) = trim text := by
  rw [trim, String.toList_append, trimChars_append_trailing blank, trim]

/-- A text that starts with no blank does not indent. -/
theorem indentationOf_append {text : String}
    (sharp : ∀ c, text.toList.head? = some c → isBlank c = false) (pad : String) :
    indentationOf (pad ++ text) = indentationOf pad := by
  have none : text.toList.takeWhile (· = ' ') = [] := by
    cases chars : text.toList with
    | nil => rfl
    | cons c rest =>
        have noSpace : c ≠ ' ' := by
          rintro rfl
          cases sharp ' ' (by rw [chars]; rfl)
        exact List.takeWhile_cons_of_neg (by simpa using noSpace)
  rw [indentationOf, indentationOf, String.toList_append, List.takeWhile_append, none,
    List.append_nil]
  split
  · next all => exact all.symm
  · rfl

/-- A text behind an indentation is read as it is. -/
theorem Line.ofRaw?_indentation {text : String} (name : IsName text) (filled : text ≠ "")
    (depth number : Nat) :
    ofRaw? (indentation depth ++ text) number =
      some ⟨text, indentStep * depth, number, indentation depth ++ text⟩ := by
  have blank : ∀ c ∈ (indentation depth).toList, isBlank c = true := by
    intro c inside
    rw [toList_indentation] at inside
    rw [List.eq_of_mem_replicate inside]
    rfl
  have counts : isIgnored text = false :=
    isIgnored_eq_false_iff.mpr ⟨by simpa using filled, name.noComment⟩
  have spaces : indentationOf (indentation depth) = indentStep * depth := by
    rw [indentationOf, toList_indentation]
    simp
  simp [ofRaw?, trim_append name.trimmed blank, counts,
    indentationOf_append name.trimmed.front, spaces]

theorem noComment_append_colon {front : List Char} (noComment : ¬ ['/', '/'] <+: front)
    (rest : List Char) : ¬ ['/', '/'] <+: front ++ ':' :: rest := by
  rintro ⟨after, spelled⟩
  rcases front with _ | ⟨first, _ | ⟨second, front⟩⟩
  · simp at spelled
  · simp at spelled
  · simp only [List.cons_append, List.cons.injEq] at spelled
    exact noComment ⟨front, by rw [← spelled.1, ← spelled.2.1]; rfl⟩

theorem front_append_colon {front : List Char} (trimmed : Trimmed front) (rest : List Char)
    (c : Char) (first : (front ++ ':' :: rest).head? = some c) : isBlank c = false := by
  cases front with
  | nil =>
      cases first
      rfl
  | cons d front =>
      cases first
      exact trimmed.front c rfl

theorem trimmed_append_colon {front : List Char} (trimmed : Trimmed front) :
    Trimmed (front ++ [':']) := by
  refine ⟨front_append_colon trimmed [], ?_⟩
  intro c last
  rw [List.getLast?_concat, Option.some.injEq] at last
  rw [← last, isBlank_colon]

theorem IsName.declaration {kind : String} (name : IsName kind) : IsName (kind ++ ":") := by
  have chars : (kind ++ ":").toList = kind.toList ++ [':'] := by simp
  constructor
  · rw [chars]
    exact trimmed_append_colon name.trimmed
  · rw [chars]
    exact name.unbroken.append (unbroken_singleton rfl)
  · rw [chars]
    exact noComment_append_colon name.noComment []

theorem IsName.declares {kind : String} (name : IsName kind) : Declares (kind ++ ":") kind := by
  refine ⟨kind, rfl, ?_⟩
  rw [trim, trimChars_of_trimmed name.trimmed, String.ofList_toList]

theorem IsSetting.getLast? {key value : String} (setting : IsSetting key value) :
    (key ++ ": " ++ value).toList.getLast? = value.toList.getLast? := by
  have filled : value.toList ≠ [] := by simpa using setting.valued.filled
  rw [String.toList_append, List.getLast?_append, List.getLast?_eq_getLast_of_ne_nil filled,
    Option.some_or]

theorem IsSetting.line {key value : String} (setting : IsSetting key value) :
    IsName (key ++ ": " ++ value) := by
  have chars : (key ++ ": " ++ value).toList = key.toList ++ ':' :: ' ' :: value.toList := by
    simp
  constructor
  · refine ⟨?_, ?_⟩
    · rw [chars]
      exact front_append_colon setting.name.trimmed _
    · rw [setting.getLast?]
      exact setting.valued.trimmed.back
  · rw [chars, ← List.singleton_append, ← List.singleton_append]
    exact setting.name.unbroken.append ((unbroken_singleton rfl).append
      ((unbroken_singleton rfl).append setting.valued.unbroken))
  · rw [chars]
    exact noComment_append_colon setting.name.noComment _

theorem IsSetting.sets {key value : String} (setting : IsSetting key value) :
    Sets (key ++ ": " ++ value) key value := by
  refine ⟨⟨key, " " ++ value, ?_, setting.noColon, ?_, ?_⟩, ?_⟩
  · apply String.ext
    simp
  · rw [trim, trimChars_of_trimmed setting.name.trimmed, String.ofList_toList]
  · have space : ∀ c ∈ " ".toList, isBlank c = true := by
      intro c inside
      rw [List.mem_singleton.mp inside]
      rfl
    rw [trim, String.toList_append, trimChars_append_of_blank space,
      trimChars_of_trimmed setting.valued.trimmed, String.ofList_toList]
  · rw [exists_append_colon_iff, isDeclaration, beq_iff_eq, setting.getLast?]
    exact setting.valued.noColon

end writing

end TuiTemplate
