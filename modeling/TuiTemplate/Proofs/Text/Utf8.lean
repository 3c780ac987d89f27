import Mathlib.Data.List.Basic
import TuiTemplate.Text.Utf8

set_option autoImplicit false

namespace TuiTemplate.Text

def utf8Bytes (text : List Char) : List UInt8 := text.flatMap String.utf8EncodeChar

theorem utf8Bytes_cons (c : Char) (text : List Char) :
    utf8Bytes (c :: text) = String.utf8EncodeChar c ++ utf8Bytes text := List.flatMap_cons

theorem utf8Bytes_toList (text : String) : utf8Bytes text.toList = text.toUTF8.data.toList := by
  change _ = text.toByteArray.data.toList
  rw [← String.utf8Encode_toList, List.utf8Encode, List.toList_data_toByteArray, utf8Bytes]

theorem isContinuation_iff {b : UInt8} :
    isContinuation b = true ↔ 128 ≤ b.toNat ∧ b.toNat < 192 := by
  simp only [isContinuation, Bool.and_eq_true, decide_eq_true_eq, UInt8.le_iff_toNat_le,
    UInt8.lt_iff_toNat_lt]
  exact Iff.rfl

theorem isSecond_iff {a b : UInt8} :
    isSecond a b = true ↔ (128 ≤ b.toNat ∧ b.toNat < 192) ∧ (a.toNat = 224 → 160 ≤ b.toNat) ∧
      (a.toNat = 237 → b.toNat < 160) ∧ (a.toNat = 240 → 144 ≤ b.toNat) ∧
      (a.toNat = 244 → b.toNat < 144) := by
  simp only [isSecond, Bool.and_eq_true, isContinuation_iff, Bool.or_eq_true, bne_iff_ne, ne_eq,
    decide_eq_true_eq, UInt8.le_iff_toNat_le, UInt8.lt_iff_toNat_lt, ← UInt8.toNat_inj,
    ← imp_iff_not_or, and_assoc]
  exact Iff.rfl

/-- The bytes of the character with a number. -/
inductive Form : List UInt8 → Nat → Prop
  | one {a : UInt8} (small : a.toNat < 128) : Form [a] a.toNat
  | two {a b : UInt8} (least : 194 ≤ a.toNat) (most : a.toNat < 224)
      (second : isContinuation b = true) : Form [a, b] (a.toNat % 32 * 64 + low b)
  | three {a b c : UInt8} (least : 224 ≤ a.toNat) (most : a.toNat < 240)
      (second : isSecond a b = true) (third : isContinuation c = true) :
      Form [a, b, c] ((a.toNat % 16 * 64 + low b) * 64 + low c)
  | four {a b c d : UInt8} (least : 240 ≤ a.toNat) (most : a.toNat < 245)
      (second : isSecond a b = true) (third : isContinuation c = true)
      (fourth : isContinuation d = true) :
      Form [a, b, c, d] (((a.toNat % 8 * 64 + low b) * 64 + low c) * 64 + low d)

theorem ofNat_eq {n : Nat} {b : UInt8} (same : n = b.toNat) : UInt8.ofNat n = b := by
  rw [same, UInt8.ofNat_toNat]

theorem form_encodeChar (c : Char) : Form (String.utf8EncodeChar c) c.toNat := by
  have valid : c.toNat < 0xd800 ∨ (0xdfff < c.toNat ∧ c.toNat < 0x110000) := c.valid
  have number : c.val.toNat = c.toNat := rfl
  have byte {n : Nat} (small : n < 256) : (UInt8.ofNat n).toNat = n :=
    UInt8.toNat_ofNat_of_lt' small
  rw [String.utf8EncodeChar, number]
  split
  · next small =>
      have first := byte (n := c.toNat) (by omega)
      have form := Form.one (a := UInt8.ofNat c.toNat) (by omega)
      rwa [first] at form
  split
  · next above small =>
      have first := byte (n := c.toNat / 64 % 32 + 192) (by omega)
      have second := byte (n := c.toNat % 64 + 128) (by omega)
      convert Form.two (a := UInt8.ofNat (c.toNat / 64 % 32 + 192))
        (b := UInt8.ofNat (c.toNat % 64 + 128)) (by omega) (by omega)
        (isContinuation_iff.mpr (by omega)) using 1
      rw [low, first, second]
      omega
  split
  · next above small =>
      have first := byte (n := c.toNat / 4096 % 16 + 224) (by omega)
      have second := byte (n := c.toNat / 64 % 64 + 128) (by omega)
      have third := byte (n := c.toNat % 64 + 128) (by omega)
      convert Form.three (a := UInt8.ofNat (c.toNat / 4096 % 16 + 224))
        (b := UInt8.ofNat (c.toNat / 64 % 64 + 128)) (c := UInt8.ofNat (c.toNat % 64 + 128))
        (by omega) (by omega) (isSecond_iff.mpr (by omega)) (isContinuation_iff.mpr (by omega))
        using 1
      rw [low, low, first, second, third]
      omega
  · next above =>
      have first := byte (n := c.toNat / 262144 % 8 + 240) (by omega)
      have second := byte (n := c.toNat / 4096 % 64 + 128) (by omega)
      have third := byte (n := c.toNat / 64 % 64 + 128) (by omega)
      have fourth := byte (n := c.toNat % 64 + 128) (by omega)
      convert Form.four (a := UInt8.ofNat (c.toNat / 262144 % 8 + 240))
        (b := UInt8.ofNat (c.toNat / 4096 % 64 + 128)) (c := UInt8.ofNat (c.toNat / 64 % 64 + 128))
        (d := UInt8.ofNat (c.toNat % 64 + 128)) (by omega) (by omega)
        (isSecond_iff.mpr (by omega)) (isContinuation_iff.mpr (by omega))
        (isContinuation_iff.mpr (by omega)) using 1
      rw [low, low, low, first, second, third, fourth]
      omega

namespace Form

variable {bytes : List UInt8} {n : Nat}

theorem isValidChar (form : Form bytes n) : n.isValidChar := by
  cases form with
  | one few => exact .inl (by omega)
  | two least most second =>
      rw [isContinuation_iff] at second
      exact .inl (by rw [low]; omega)
  | three least most second third =>
      rw [isSecond_iff] at second
      rw [isContinuation_iff] at third
      rw [low, low, Nat.isValidChar]
      omega
  | four least most second third fourth =>
      rw [isSecond_iff] at second
      rw [isContinuation_iff] at third fourth
      rw [low, low, low, Nat.isValidChar]
      omega

theorem encodeChar_eq (form : Form bytes n) : String.utf8EncodeChar (Char.ofNat n) = bytes := by
  have number : (Char.ofNat n).val.toNat = n := by
    rw [Char.ofNat, dif_pos form.isValidChar]
    rfl
  rw [String.utf8EncodeChar, number]
  cases form with
  | one small => rw [if_pos (by omega), UInt8.ofNat_toNat]
  | @two a b least most second =>
      rw [isContinuation_iff] at second
      rw [low, if_neg (by omega), if_pos (by omega), ofNat_eq (b := a) (by omega),
        ofNat_eq (b := b) (by omega)]
  | @three a b c least most second third =>
      rw [isSecond_iff] at second
      rw [isContinuation_iff] at third
      rw [low, low, if_neg (by omega), if_neg (by omega), if_pos (by omega),
        ofNat_eq (b := a) (by omega), ofNat_eq (b := b) (by omega), ofNat_eq (b := c) (by omega)]
  | @four a b c d least most second third fourth =>
      rw [isSecond_iff] at second
      rw [isContinuation_iff] at third fourth
      rw [low, low, low, if_neg (by omega), if_neg (by omega), if_neg (by omega),
        ofNat_eq (b := a) (by omega), ofNat_eq (b := b) (by omega), ofNat_eq (b := c) (by omega),
        ofNat_eq (b := d) (by omega)]

/-- A character in front of other bytes is read first. -/
theorem decodeFrom_append (form : Form bytes n) (position : Nat) (rest : List UInt8) :
    decodeFrom position (bytes ++ rest) =
      prepend n (decodeFrom (position + bytes.length) rest) := by
  cases form with
  | one small =>
      rw [List.singleton_append, decodeFrom.eq_def]
      simp [UInt8.lt_iff_toNat_lt, small]
  | @two a b least most second =>
      have known : ¬ a.toNat < 128 ∧ ¬ (a.toNat < 194 ∨ 245 ≤ a.toNat) := by omega
      rw [List.cons_append, List.singleton_append, decodeFrom.eq_def]
      simp [UInt8.lt_iff_toNat_lt, UInt8.le_iff_toNat_le, known, most, second]
  | @three a b c least most second third =>
      have known : ¬ a.toNat < 128 ∧ ¬ (a.toNat < 194 ∨ 245 ≤ a.toNat) ∧ ¬ a.toNat < 224 := by
        omega
      rw [List.cons_append, List.cons_append, List.singleton_append, decodeFrom.eq_def]
      simp [UInt8.lt_iff_toNat_lt, UInt8.le_iff_toNat_le, known, most, second, third]
  | @four a b c d least most second third fourth =>
      have known : ¬ a.toNat < 128 ∧ ¬ (a.toNat < 194 ∨ 245 ≤ a.toNat) ∧ ¬ a.toNat < 224 ∧
          ¬ a.toNat < 240 := by
        omega
      rw [List.cons_append, List.cons_append, List.cons_append, List.singleton_append,
        decodeFrom.eq_def]
      simp [UInt8.lt_iff_toNat_lt, UInt8.le_iff_toNat_le, known, second, third, fourth]

end Form

theorem prepend_eq_ok_iff {n : Nat} {r : Except Utf8Error (List Char × List UInt8)}
    {text : List Char} {left : List UInt8} :
    prepend n r = .ok (text, left) ↔
      ∃ later, r = .ok (later, left) ∧ text = Char.ofNat n :: later := by
  cases r with
  | error reason => simp [prepend, Except.map]
  | ok found =>
      obtain ⟨later, rest⟩ := found
      simp [prepend, Except.map, eq_comm, and_comm]

/-- What is decoded are the bytes of the text, and nothing is lost. -/
theorem eq_utf8Bytes_append_of_decodeFrom {position : Nat} {bytes left : List UInt8}
    {text : List Char} (decoded : decodeFrom position bytes = .ok (text, left)) :
    bytes = utf8Bytes text ++ left := by
  have step {n : Nat} {front rest : List UInt8} {later : List Char} (form : Form front n)
      (same : rest = utf8Bytes later ++ left) :
      front ++ rest = utf8Bytes (Char.ofNat n :: later) ++ left := by
    rw [utf8Bytes_cons, form.encodeChar_eq, List.append_assoc, ← same]
  have least {a : UInt8} (known : ¬ (decide (a < 0xc2) || decide (0xf5 ≤ a)) = true) :
      194 ≤ a.toNat ∧ a.toNat < 245 := by
    simpa [UInt8.lt_iff_toNat_lt, UInt8.le_iff_toNat_le] using known
  have above {a bound : UInt8} (notBelow : ¬ a < bound) : bound.toNat ≤ a.toNat := by
    simpa [UInt8.lt_iff_toNat_lt] using notBelow
  have checked {holds : Bool} (passed : ¬ (!holds) = true) : holds = true := by simpa using passed
  fun_induction decodeFrom position bytes generalizing text with
  | case1 | case4 | case8 | case11 => cases decoded; rfl
  | case3 | case6 | case7 | case9 | case12 => cases decoded
  | case2 position a rest small ih =>
      obtain ⟨later, found, rfl⟩ := prepend_eq_ok_iff.mp decoded
      exact step (.one (UInt8.lt_iff_toNat_lt.mp small)) (ih found)
  | case5 position a notOne known b rest two second ih =>
      obtain ⟨later, found, rfl⟩ := prepend_eq_ok_iff.mp decoded
      exact step (.two (least known).1 (UInt8.lt_iff_toNat_lt.mp two) second) (ih found)
  | case10 position a notOne known b notTwo second c rest third three ih =>
      obtain ⟨later, found, rfl⟩ := prepend_eq_ok_iff.mp decoded
      exact step (.three (above notTwo) (UInt8.lt_iff_toNat_lt.mp three) (checked second)
        (checked third)) (ih found)
  | case13 position a notOne known b notTwo second c third notThree d rest fourth ih =>
      obtain ⟨later, found, rfl⟩ := prepend_eq_ok_iff.mp decoded
      exact step (.four (above notThree) (least known).2 (checked second) (checked third)
        (checked fourth)) (ih found)

/-- A text in front of other bytes is read first. -/
theorem decodeFrom_utf8Bytes_append (position : Nat) (text : List Char) (rest : List UInt8) :
    decodeFrom position (utf8Bytes text ++ rest) =
      (decodeFrom (position + (utf8Bytes text).length) rest).map fun found =>
        (text ++ found.1, found.2) := by
  induction text generalizing position with
  | nil =>
      change decodeFrom position rest = (decodeFrom position rest).map id
      rw [Except.map_id, id]
  | cons c text ih =>
      rw [utf8Bytes_cons, List.append_assoc, (form_encodeChar c).decodeFrom_append, ih, prepend,
        Char.ofNat_toNat, List.length_append, Nat.add_assoc]
      generalize decodeFrom (position + _) rest = read
      cases read with
      | error reason => rfl
      | ok found => rfl

theorem decodeUtf8_eq_ok_iff {bytes : List UInt8} {text : List Char} :
    decodeUtf8 bytes = .ok text ↔ bytes = utf8Bytes text := by
  constructor
  · intro decoded
    rw [decodeUtf8] at decoded
    split at decoded
    · cases decoded
    · next found =>
        cases decoded
        rw [eq_utf8Bytes_append_of_decodeFrom found, List.append_nil]
    · cases decoded
  · rintro rfl
    have whole := decodeFrom_utf8Bytes_append 0 text []
    rw [List.append_nil] at whole
    rw [decodeUtf8, whole]
    simp [decodeFrom, Except.map]

end TuiTemplate.Text
