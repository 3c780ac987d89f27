import TuiTemplate.Proofs.Text.Case
import TuiTemplate.Proofs.Text.Digit
import TuiTemplate.Settings

set_option autoImplicit false

namespace TuiTemplate

open Text

/-- The first step that fails ends the run. Else it has what all steps give. -/
theorem mapM_cases {α β ε : Type} (f : α → Except ε β) (items : List α) :
    (∃ a ∈ items, ∃ e, f a = .error e ∧ items.mapM f = .error e) ∨
      ∃ found, items.mapM f = .ok found ∧ (∀ a ∈ items, ∃ b, f a = .ok b) ∧
        ∀ b, b ∈ found ↔ ∃ a ∈ items, f a = .ok b := by
  induction items with
  | nil => exact .inr ⟨[], rfl, nofun, fun b => by simp⟩
  | cons first rest ih =>
      rw [List.mapM_cons]
      cases here : f first with
      | error e => exact .inl ⟨first, List.mem_cons_self, e, here, rfl⟩
      | ok b =>
          rcases ih with ⟨a, inside, e, failed, stopped⟩ | ⟨found, whole, fine, mem_found⟩
          · exact .inl ⟨a, List.mem_cons_of_mem first inside, e, failed, by rw [stopped]; rfl⟩
          · refine .inr ⟨b :: found, by rw [whole]; rfl, ?_, fun other => ?_⟩
            · exact List.forall_mem_cons.mpr ⟨⟨b, here⟩, fine⟩
            · rw [List.mem_cons, mem_found, List.exists_mem_cons_iff, here, Except.ok.injEq,
                eq_comm]

namespace Setting

theorem mem_all (s : Setting) : s ∈ all := by
  cases s <;> decide

theorem ofName?_name (s : Setting) : ofName? s.name = some s := by
  cases s <;> decide +kernel

def BlamedBy (s : Setting) (message : String) : Prop := ∃ value, message = s.complaint value

/-- How the complaints about a setting end, whatever the value is. -/
def blame (s : Setting) : String := "' for " ++ s.name ++ ". " ++ s.demand

theorem blame_suffix (s : Setting) (value : String) :
    s.blame.toList <:+ (s.complaint value).toList := by
  have regroup : ∀ front value quote name stop demand : String,
      front ++ value ++ quote ++ name ++ stop ++ demand =
        front ++ value ++ (quote ++ name ++ stop ++ demand) := by
    simp only [String.append_assoc, implies_true]
  have parts : s.complaint value = "Invalid value '" ++ value ++ s.blame :=
    regroup _ _ _ _ _ _
  rw [parts, String.toList_append]
  exact List.suffix_append _ _

theorem getLast?_blame (s : Setting) :
    s.blame.toList.getLast? = some (if s = .logLevel then ']' else 'r') := by
  cases s with
  | width => decide +kernel
  | height => decide +kernel
  | logLevel =>
      have closed : ("]" : String).toList.getLast? = some ']' := rfl
      rw [blame, demand, Detail.render]
      simp only [String.toList_append, List.getLast?_append, closed, Option.some_or, ↓reduceIte]

theorem eq_of_blame_suffix {s t : Setting} (ends : s.blame.toList <:+ t.blame.toList) :
    s = t := by
  have last : s.blame.toList.getLast? = t.blame.toList.getLast? := by
    obtain ⟨front, whole⟩ := ends
    rw [← whole, List.getLast?_append, getLast?_blame, Option.some_or]
  rw [getLast?_blame, getLast?_blame, Option.some_inj] at last
  cases s <;> cases t <;>
    first
    | rfl
    | exact absurd last (by decide)
    | exact absurd ends (by decide +kernel)

/-- A message blames one setting only. -/
theorem BlamedBy.unique {s t : Setting} {message : String} (first : s.BlamedBy message)
    (second : t.BlamedBy message) : s = t := by
  obtain ⟨value, rfl⟩ := first
  obtain ⟨other, same⟩ := second
  rcases List.suffix_or_suffix_of_suffix (blame_suffix s value) (same ▸ blame_suffix t other)
    with ends | ends
  · exact eq_of_blame_suffix ends
  · exact (eq_of_blame_suffix ends).symm

/-- A value that passes for digits but cannot be read: it has a digit that is no decimal digit, or
too many digits, or separators around its digits that only the check trims. -/
def BreaksOff (s : Setting) (value : String) : Prop :=
  s ≠ .logLevel ∧ trimChars value.toList ≠ [] ∧
    (∀ c ∈ trimChars value.toList, isDigit c = true) ∧ ¬ IsNumeral value

def Accepts (s : Setting) (value : String) : Prop :=
  if s = .logLevel then upper value ∈ logLevels else ∃ n, parseNumeral value = .ok n ∧ 1 ≤ n

theorem Accepts.not_breaksOff {s : Setting} {value : String} (usable : s.Accepts value) :
    ¬ s.BreaksOff value := by
  rintro ⟨isExtent, -, -, noNumeral⟩
  rw [Accepts, if_neg isExtent] at usable
  obtain ⟨n, read, -⟩ := usable
  exact noNumeral (exists_parseNumeral_eq_ok_iff.mp ⟨n, read⟩)

inductive Checked (s : Setting) (value : String) : Except NumeralError (Option String) → Prop where
  | sound (usable : s.Accepts value) : Checked s value (.ok none)
  | refused (told : ¬ s.BreaksOff value) : Checked s value (.ok (some (s.complaint value)))
  | unread (e : NumeralError) (odd : s.BreaksOff value) : Checked s value (.error e)

theorem checked_checkExtent {s : Setting} (isExtent : s ≠ .logLevel) (value : String) :
    s.Checked value (s.checkExtent value) := by
  rw [checkExtent]
  split
  · next noDigits =>
      refine .refused fun odd => ?_
      rw [Bool.or_eq_true, Bool.not_eq_true', List.all_eq_false] at noDigits
      rcases noDigits with empty | ⟨c, inside, other⟩
      · exact odd.2.1 (List.isEmpty_iff.mp empty)
      · exact other (odd.2.2.1 c inside)
  · next digits =>
      rw [Bool.or_eq_true, Bool.not_eq_true', not_or, Bool.not_eq_false, List.isEmpty_iff,
        List.all_eq_true] at digits
      cases read : parseNumeral value with
      | error e =>
          refine .unread e ⟨isExtent, digits.1, digits.2, fun numeral => ?_⟩
          obtain ⟨n, other⟩ := exists_parseNumeral_eq_ok_iff.mpr numeral
          rw [read] at other
          cases other
      | ok n =>
          rw [Except.map]
          split
          · exact .refused fun odd => odd.2.2.2 (exists_parseNumeral_eq_ok_iff.mp ⟨n, read⟩)
          · next positive =>
              refine .sound ?_
              rw [Accepts, if_neg isExtent]
              exact ⟨n, read, Nat.one_le_iff_ne_zero.mpr positive⟩

/-- Log levels are words of plain capitals, so a value that is one but for the case of its letters
has it for its capital form. -/
theorem accepts_logLevel_of_lower {value : String}
    (known : (logLevels.map lower).contains (lower value) = true) :
    Setting.logLevel.Accepts value := by
  obtain ⟨level, listed, same⟩ := List.mem_map.mp (List.contains_iff_mem.mp known)
  have capitals : ∀ l ∈ logLevels, l.toList.all (fun c => decide (IsPlainCapital c)) = true := by
    decide +kernel
  have capital : ∀ c ∈ level.toList, IsPlainCapital c := fun c inside =>
    of_decide_eq_true (List.all_eq_true.mp (capitals level listed) c inside)
  rw [Accepts, if_pos rfl, upper_eq_of_lower_eq capital same.symm]
  exact listed

theorem accepts_default (s : Setting) : s.Accepts s.default := by
  cases s with
  | width => exact ⟨80, by rfl, by decide⟩
  | height => exact ⟨24, by rfl, by decide⟩
  | logLevel =>
      have listed : Setting.logLevel.default ∈ logLevels := by decide
      exact accepts_logLevel_of_lower (List.contains_iff_mem.mpr (List.mem_map_of_mem listed))

theorem checked_check (s : Setting) (value : String) : s.Checked value (s.check value) := by
  cases s with
  | width => exact checked_checkExtent (by decide) value
  | height => exact checked_checkExtent (by decide) value
  | logLevel =>
      rw [check]
      split
      · next known => exact .sound (accepts_logLevel_of_lower known)
      · exact .refused fun odd => odd.1 rfl

end Setting

namespace Environment

def valueOf (env : Environment) (s : Setting) : String := (env.get? s.name).getD s.default

def finding (env : Environment) (s : Setting) : Except NumeralError (Option String) :=
  checkVariable s.name (env.get? s.name)

theorem checked_finding (env : Environment) (s : Setting) :
    s.Checked (env.valueOf s) (env.finding s) := by
  unfold finding checkVariable
  rw [s.ofName?_name, valueOf]
  cases env.get? s.name with
  | none => exact .sound s.accepts_default
  | some value => exact s.checked_check value

theorem lookupValid_name (env : Environment) (s : Setting) :
    env.lookupValid s.name =
      match env.finding s with
      | .error e => .error (.unreadable e)
      | .ok (some complaint) => .error (.invalid (.configuration complaint (some s.name)))
      | .ok none => .ok (some (env.valueOf s)) := by
  have found : env.lookup s.name = some (env.valueOf s) := by
    rw [lookup, s.ofName?_name, valueOf]
    cases env.get? s.name <;> rfl
  unfold finding
  cases told : checkVariable s.name (env.get? s.name) with
  | error e => simp only [lookupValid, told]
  | ok complaint =>
      cases complaint with
      | some message => simp only [lookupValid, told]
      | none => simp only [lookupValid, told, found]

inductive Measured (env : Environment) (s : Setting) : Except SettingError Nat → Prop where
  | sound (n : Nat) (fine : env.finding s = .ok none) (positive : 1 ≤ n) : Measured env s (.ok n)
  | refused (message : String) (told : env.finding s = .ok (some message)) :
    Measured env s (.error (.invalid (.configuration message (some s.name))))
  | unread (e : NumeralError) (odd : env.finding s = .error e) :
    Measured env s (.error (.unreadable e))

theorem measured_extent (env : Environment) {s : Setting} (isExtent : s ≠ .logLevel) :
    env.Measured s (env.extent s) := by
  have ends := env.checked_finding s
  rw [extent, lookupValid_name]
  cases found : env.finding s with
  | error e => exact .unread e found
  | ok told =>
      cases told with
      | some message => exact .refused message found
      | none =>
          rw [found] at ends
          obtain ⟨usable⟩ := ends
          rw [Setting.Accepts, if_neg isExtent] at usable
          obtain ⟨n, read, positive⟩ := usable
          have measured : env.Measured s (.ok n) := .sound n found positive
          simpa only [bind, Except.bind, Option.getD_some, read, Except.mapError] using measured

theorem finding_eq_error_iff (env : Environment) (s : Setting) :
    (∃ e, env.finding s = .error e) ↔ s.BreaksOff (env.valueOf s) := by
  have ends := env.checked_finding s
  generalize env.finding s = found at ends ⊢
  cases ends with
  | sound usable => simp only [reduceCtorEq, exists_false, usable.not_breaksOff]
  | refused told => simp only [reduceCtorEq, exists_false, told]
  | unread e odd => simp only [Except.error.injEq, exists_eq', odd]

theorem blamedBy_of_finding {env : Environment} {s : Setting} {message : String}
    (told : env.finding s = .ok (some message)) : s.BlamedBy message := by
  have ends := env.checked_finding s
  rw [told] at ends
  cases ends
  exact ⟨env.valueOf s, rfl⟩

theorem complaints_eq (env : Environment) :
    env.complaints = (Setting.all.mapM env.finding).map fun found => found.filterMap id := rfl

theorem exists_complaints_eq_error_iff (env : Environment) :
    (∃ e, env.complaints = .error e) ↔ ∃ s : Setting, s.BreaksOff (env.valueOf s) := by
  simp only [← finding_eq_error_iff, complaints_eq]
  rcases mapM_cases env.finding Setting.all with
    ⟨s, -, e, odd, stopped⟩ | ⟨found, listed, fine, -⟩
  · exact ⟨fun _ => ⟨s, e, odd⟩, fun _ => ⟨e, by rw [stopped]; rfl⟩⟩
  · rw [listed]
    constructor
    · rintro ⟨e, impossible⟩
      cases impossible
    · rintro ⟨s, e, odd⟩
      obtain ⟨told, checked⟩ := fine s s.mem_all
      rw [odd] at checked
      cases checked

/-- The complaints are what the checks of the settings find. -/
theorem mem_of_complaints {env : Environment} {messages : List String}
    (listed : env.complaints = .ok messages) (message : String) :
    message ∈ messages ↔ ∃ s, env.finding s = .ok (some message) := by
  rw [complaints_eq] at listed
  rcases mapM_cases env.finding Setting.all with
    ⟨s, -, e, odd, stopped⟩ | ⟨found, whole, -, mem_found⟩
  · rw [stopped] at listed
    cases listed
  · rw [whole] at listed
    cases listed
    simp only [List.mem_filterMap, id, exists_eq_right, mem_found, Setting.mem_all, true_and]

/-- What size and log level come to when these are the complaints about the settings. -/
structure Answers (env : Environment) (messages : List String) : Prop where
  size : (∀ s : Setting, s ≠ .logLevel → ∀ message ∈ messages, ¬ s.BlamedBy message) →
    ∃ columns rows, env.renderSize = .ok (columns, rows) ∧ 1 ≤ columns ∧ 1 ≤ rows
  noSize : (∃ s : Setting, s ≠ .logLevel ∧ ∃ message ∈ messages, s.BlamedBy message) →
    ∃ s : Setting, s ≠ .logLevel ∧ ∃ message ∈ messages, s.BlamedBy message ∧
      env.renderSize = .error (.invalid (.configuration message (some s.name)))
  level : (∀ message ∈ messages, ¬ Setting.logLevel.BlamedBy message) →
    ∃ level ∈ Setting.logLevels, env.logLevel = .ok level
  noLevel : (∃ message ∈ messages, Setting.logLevel.BlamedBy message) →
    ∃ message ∈ messages, Setting.logLevel.BlamedBy message ∧
      env.logLevel = .error (.invalid (.configuration message (some Setting.logLevel.name)))

/-- How the reading of the size can end. The height is not looked at before the width is fine. -/
inductive Sized (env : Environment) : Except SettingError (Nat × Nat) → Prop where
  | sound (columns rows : Nat) (width : env.finding .width = .ok none)
    (height : env.finding .height = .ok none) (wide : 1 ≤ columns) (high : 1 ≤ rows) :
    Sized env (.ok (columns, rows))
  | refused (s : Setting) (isExtent : s ≠ .logLevel) (message : String)
    (told : env.finding s = .ok (some message))
    (before : s = .height → env.finding .width = .ok none) :
    Sized env (.error (.invalid (.configuration message (some s.name))))
  | unread (s : Setting) (isExtent : s ≠ .logLevel) (e : NumeralError)
    (odd : env.finding s = .error e) (before : s = .height → env.finding .width = .ok none) :
    Sized env (.error (.unreadable e))

theorem sized_renderSize (env : Environment) : env.Sized env.renderSize := by
  have width := env.measured_extent (s := .width) (by decide)
  have height := env.measured_extent (s := .height) (by decide)
  unfold renderSize
  generalize env.extent .width = columns at width ⊢
  generalize env.extent .height = rows at height ⊢
  cases width with
  | refused message told => exact .refused .width (by decide) message told nofun
  | unread e odd => exact .unread .width (by decide) e odd nofun
  | sound columns fine wide =>
      cases height with
      | refused message told => exact .refused .height (by decide) message told fun _ => fine
      | unread e odd => exact .unread .height (by decide) e odd fun _ => fine
      | sound rows fine' high => exact .sound columns rows fine fine' wide high

theorem logLevel_cases (env : Environment) :
    (env.finding .logLevel = .ok none ∧ ∃ level ∈ Setting.logLevels, env.logLevel = .ok level) ∨
      ∃ message, env.finding .logLevel = .ok (some message) ∧
        env.logLevel = .error (.invalid (.configuration message (some Setting.logLevel.name))) := by
  have ends := env.checked_finding .logLevel
  rw [logLevel, lookupValid_name]
  generalize env.finding .logLevel = found at ends ⊢
  cases ends with
  | sound usable => exact .inl ⟨rfl, _, usable, rfl⟩
  | refused told => exact .inr ⟨_, rfl, rfl⟩
  | unread e odd => exact absurd rfl odd.1

/-- Each complaint about a setting is what the check of that setting finds. -/
theorem finding_of_blamedBy {env : Environment} {messages : List String}
    (listed : env.complaints = .ok messages) {s : Setting} {message : String}
    (inside : message ∈ messages) (blamed : s.BlamedBy message) :
    env.finding s = .ok (some message) := by
  obtain ⟨t, told⟩ := (mem_of_complaints listed message).mp inside
  rwa [blamed.unique (blamedBy_of_finding told)]

theorem answers_of_complaints {env : Environment} {messages : List String}
    (listed : env.complaints = .ok messages) : env.Answers messages := by
  have inside : ∀ s message, env.finding s = .ok (some message) → message ∈ messages :=
    fun s message told => (mem_of_complaints listed message).mpr ⟨s, told⟩
  have readable : ∀ s e, env.finding s ≠ .error e := by
    intro s e odd
    obtain ⟨e, stopped⟩ := env.exists_complaints_eq_error_iff.mpr
      ⟨s, (env.finding_eq_error_iff s).mp ⟨e, odd⟩⟩
    rw [stopped] at listed
    cases listed
  have size := env.sized_renderSize
  generalize same : env.renderSize = result at size
  constructor
  case size =>
    intro spared
    cases size with
    | sound columns rows _ _ wide high => exact ⟨columns, rows, same, wide, high⟩
    | refused s isExtent message told _ =>
        exact absurd (blamedBy_of_finding told) (spared s isExtent message (inside s message told))
    | unread s _ e odd _ => exact absurd odd (readable s e)
  case noSize =>
    rintro ⟨s, isExtent, message, here, blamed⟩
    have refused := finding_of_blamedBy listed here blamed
    cases size with
    | sound _ _ width height _ _ =>
        cases s with
        | width => rw [refused] at width; cases width
        | height => rw [refused] at height; cases height
        | logLevel => exact absurd rfl isExtent
    | refused s isExtent message told _ =>
        exact ⟨s, isExtent, message, inside s message told, blamedBy_of_finding told, same⟩
    | unread s _ e odd _ => exact absurd odd (readable s e)
  case level =>
    intro spared
    rcases env.logLevel_cases with ⟨-, usable⟩ | ⟨message, told, -⟩
    · exact usable
    · exact absurd (blamedBy_of_finding told) (spared message (inside _ message told))
  case noLevel =>
    rintro ⟨message, here, blamed⟩
    have refused := finding_of_blamedBy listed here blamed
    rcases env.logLevel_cases with ⟨fine, -⟩ | ⟨message, told, failed⟩
    · rw [refused] at fine
      cases fine
    · exact ⟨message, inside _ message told, blamedBy_of_finding told, failed⟩

theorem renderSize_eq_unreadable_iff (env : Environment) :
    (∃ e, env.renderSize = .error (.unreadable e)) ↔
      Setting.width.BreaksOff (env.valueOf .width) ∨
        Setting.height.BreaksOff (env.valueOf .height) ∧ env.finding .width = .ok none := by
  have size := env.sized_renderSize
  rw [← finding_eq_error_iff, ← finding_eq_error_iff]
  generalize env.renderSize = result at size ⊢
  cases size with
  | sound columns rows width height _ _ =>
      simp only [width, height, reduceCtorEq, exists_false, false_and, or_false]
  | refused s isExtent message told before =>
      cases s with
      | width =>
          simp only [told, reduceCtorEq, Except.ok.injEq, Except.error.injEq, exists_false,
            and_false, or_false]
      | height =>
          simp only [told, before rfl, reduceCtorEq, Except.error.injEq, exists_false, false_and,
            or_false]
      | logLevel => exact absurd rfl isExtent
  | unread s isExtent e odd before =>
      cases s with
      | width =>
          simp only [odd, Except.error.injEq, SettingError.unreadable.injEq, exists_eq', true_or]
      | height =>
          simp only [odd, before rfl, Except.error.injEq, SettingError.unreadable.injEq,
            exists_eq', and_self, or_true]
      | logLevel => exact absurd rfl isExtent

theorem renderSize_error {env : Environment} {e : SettingError}
    (failed : env.renderSize = .error e) :
    (∃ s : Setting, s ≠ .logLevel ∧ ∃ message, s.BlamedBy message ∧
        e = .invalid (.configuration message (some s.name))) ∨
      ∃ odd, e = .unreadable odd := by
  have size := env.sized_renderSize
  rw [failed] at size
  cases size with
  | refused s isExtent message told _ =>
      exact .inl ⟨s, isExtent, message, blamedBy_of_finding told, rfl⟩
  | unread s _ odd _ _ => exact .inr ⟨odd, rfl⟩

/-- For each environment, size and log level can be used as far as there are no complaints about
them, and are refused else, but for extents that pass for digits and cannot be read. Those break
off the listing of the complaints and, unless the width is refused before, the reading of the
size. -/
theorem usable_or_told (env : Environment) :
    ((∃ e, env.complaints = .error e) ↔ ∃ s : Setting, s.BreaksOff (env.valueOf s)) ∧
      (∀ messages, env.complaints = .ok messages → env.Answers messages) ∧
      ((∃ e, env.renderSize = .error (.unreadable e)) ↔
        Setting.width.BreaksOff (env.valueOf .width) ∨
          Setting.height.BreaksOff (env.valueOf .height) ∧ env.finding .width = .ok none) ∧
      (∀ failure, env.renderSize = .error (.invalid failure) →
        ∃ s : Setting, s ≠ .logLevel ∧ ∃ message, s.BlamedBy message ∧
          failure = .configuration message (some s.name)) ∧
      ((∃ level ∈ Setting.logLevels, env.logLevel = .ok level) ∨
        ∃ message, Setting.logLevel.BlamedBy message ∧
          env.logLevel =
            .error (.invalid (.configuration message (some Setting.logLevel.name)))) := by
  refine ⟨env.exists_complaints_eq_error_iff, fun _ => answers_of_complaints,
    env.renderSize_eq_unreadable_iff, fun failure failed => ?_, ?_⟩
  · rcases renderSize_error failed with ⟨s, isExtent, message, blamed, same⟩ | ⟨odd, other⟩
    · exact ⟨s, isExtent, message, blamed, SettingError.invalid.inj same⟩
    · cases other
  · rcases env.logLevel_cases with ⟨-, usable⟩ | ⟨message, told, refused⟩
    · exact .inl usable
    · exact .inr ⟨message, blamedBy_of_finding told, refused⟩

/-- A zero in front and digits of another script in the width, and a level that is unknown. -/
def mixedEnvironment : Environment :=
  ⟨[("TERMDECL_WIDTH", " 0٤٢ "), ("TERMDECL_LOG_LEVEL", "loud")]⟩

theorem usable_or_told_mixed :
    mixedEnvironment.complaints = .ok [Setting.logLevel.complaint "loud"] ∧
      (∃ columns rows, mixedEnvironment.renderSize = .ok (columns, rows) ∧
        1 ≤ columns ∧ 1 ≤ rows) ∧
      ∃ message ∈ [Setting.logLevel.complaint "loud"], Setting.logLevel.BlamedBy message ∧
        mixedEnvironment.logLevel =
          .error (.invalid (.configuration message (some Setting.logLevel.name))) := by
  have listed : mixedEnvironment.complaints = .ok [Setting.logLevel.complaint "loud"] := rfl
  have answers := (usable_or_told mixedEnvironment).2.1 _ listed
  have blamed : Setting.logLevel.BlamedBy (Setting.logLevel.complaint "loud") := ⟨"loud", rfl⟩
  refine ⟨listed, answers.size ?_, answers.noLevel ⟨_, List.mem_singleton_self _, blamed⟩⟩
  intro s isExtent message here other
  rw [List.mem_singleton.mp here] at other
  exact isExtent (other.unique blamed)

def raisedEnvironment : Environment := ⟨[("TERMDECL_WIDTH", "²")]⟩

theorem not_usable_or_told_raised :
    (¬ ∃ messages, raisedEnvironment.complaints = .ok messages) ∧
      raisedEnvironment.renderSize = .error (.unreadable (.notANumeral 10 "²")) := by
  refine ⟨?_, rfl⟩
  rintro ⟨messages, listed⟩
  have stopped : raisedEnvironment.complaints = .error (.notANumeral 10 "²") := rfl
  rw [stopped] at listed
  cases listed

end Environment

end TuiTemplate
