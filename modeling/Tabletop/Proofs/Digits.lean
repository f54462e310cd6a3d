import Mathlib.Data.List.Induction
import Mathlib.Data.List.TakeWhile
import Mathlib.Algebra.Group.Nat.Defs
import Tabletop.Numeral
import Tabletop.Text.Blank
import Tabletop.Text.Case
import Tabletop.Text.Hexadecimal

/-!
# Digits and numerals

Decimal digits of every script pass through normalization untouched, and the numeral of a number
reads back as that number. A number can be written exactly if its numeral is short enough to be
read.
-/
namespace Tabletop.Text

/-- No block of ten digits meets one of the spans. -/
def apartFromDigits (spans : List Span) : Bool :=
  zeroCodes.all fun first => spans.all fun span => first + 9 < span.1 || span.2 < first

theorem not_within_of_isDigit {c : Char} (h : isDigit c) {spans : List Span}
    (apart : apartFromDigits spans = true) {span : Span} (member : span ∈ spans) :
    ¬(span.1 ≤ c.toNat ∧ c.toNat ≤ span.2) := by
  simp only [isDigit, digitValue?, Option.isSome_map, List.find?_isSome, Bool.and_eq_true,
    decide_eq_true_eq] at h
  obtain ⟨first, zero, low, high⟩ := h
  have here := List.all_eq_true.mp (List.all_eq_true.mp apart first zero) span member
  simp only [Bool.or_eq_true, decide_eq_true_eq] at here
  omega

theorem isBlank_of_isDigit {c : Char} (h : isDigit c) : isBlank c = false := by
  have apart : apartFromDigits blankSpans = true := by decide +kernel
  rw [isBlank, within, List.any_eq_false]
  intro span member
  simpa using not_within_of_isDigit h apart member

/-- A digit has no lower case of its own. -/
theorem lowerAt_of_isDigit {c : Char} (h : isDigit c) (before after : Text) :
    lowerAt before c after = [c] := by
  have apart : apartFromDigits ((0x3a3, 0x3a3) :: (0x130, 0x130) ::
      lowerRuns.map fun run => (run.first, run.last)) = true := by decide +kernel
  have sigma : c.toNat ≠ 0x3a3 := by
    have := not_within_of_isDigit h apart List.mem_cons_self
    omega
  have dotted : c.toNat ≠ 0x130 := by
    have := not_within_of_isDigit h apart (List.mem_cons_of_mem _ List.mem_cons_self)
    omega
  have still : lowerRuns.find? (·.covers c.toNat) = none := by
    rw [List.find?_eq_none]
    intro run member covered
    simp only [Run.covers, Bool.and_eq_true, decide_eq_true_eq] at covered
    exact not_within_of_isDigit h apart (List.mem_cons_of_mem _ (List.mem_cons_of_mem _
      (List.mem_map_of_mem member))) covered.1
  simp [lowerAt, lowerChar, moved?, sigma, dotted, still]

theorem digitValue?_of_ascii {c : Char} (h : c.isDigit = true) :
    digitValue? c = some (c.toNat - '0'.toNat) := by
  simp only [Char.isDigit, ge_iff_le, Bool.and_eq_true, decide_eq_true_eq] at h
  have low : 48 ≤ c.toNat := UInt32.le_iff_toNat_le.mp h.1
  have high : c.toNat ≤ 57 := UInt32.le_iff_toNat_le.mp h.2
  have block : (decide (48 ≤ c.toNat) && decide (c.toNat < 48 + 10)) = true := by
    simp only [Bool.and_eq_true, decide_eq_true_eq]
    omega
  have found : (zeroCodes.find? fun first => first ≤ c.toNat && c.toNat < first + 10) = some 48 :=
    List.find?_cons_of_pos (p := fun first => first ≤ c.toNat && c.toNat < first + 10) block
  rw [digitValue?, found]
  rfl

theorem isDigit_of_ascii {c : Char} (h : c.isDigit = true) : isDigit c = true := by
  rw [isDigit, digitValue?_of_ascii h]
  rfl

theorem digitValue_lt_ten (c : Char) : (digitValue? c).getD 0 < 10 := by
  rw [digitValue?]
  cases found : zeroCodes.find? fun first => first ≤ c.toNat && c.toNat < first + 10 with
  | none => exact Nat.zero_lt_succ _
  | some first =>
    have here := List.find?_some found
    simp only [Bool.and_eq_true, decide_eq_true_eq] at here
    simp only [Option.map_some, Option.getD_some]
    omega

theorem hexNumber?_append (digits : Text) (c : Char) : hexNumber? (digits ++ [c]) =
    (hexNumber? digits).bind fun number => (hexValue? c).map fun value => number * 16 + value := by
  rw [hexNumber?, List.foldl_append]
  cases found : hexNumber? digits <;> cases value : hexValue? c <;>
    simp_all [hexNumber?]

theorem hexValue?_digitChar {n : Nat} (digit : n < 16) :
    hexValue? (Nat.digitChar n) = some n := by
  have each : ∀ n < 16, hexValue? (Nat.digitChar n) = some n := by decide
  exact each n digit

theorem hexNumber?_toDigits (n : Nat) : hexNumber? (Nat.toDigits 16 n) = some n := by
  induction n using Nat.strongRecOn with
  | ind n ih =>
    rw [Nat.toDigits_eq_if (by decide)]
    split
    next small =>
      simp [hexNumber?, hexValue?_digitChar small]
    next large =>
      have last : n % 16 < 16 := Nat.mod_lt n (by decide)
      rw [hexNumber?_append, ih (n / 16) (Nat.div_lt_self (by omega) (by decide)),
        hexValue?_digitChar last]
      simp only [Option.bind_some, Option.map_some, Option.some.injEq]
      omega

theorem hexNumber?_zeros (k : Nat) (digits : Text) :
    hexNumber? (List.replicate k '0' ++ digits) = hexNumber? digits := by
  induction k with
  | zero => rfl
  | succ k ih => exact ih

/-- What is written is read again, whatever the width. -/
theorem hexNumber?_hex (width n : Nat) : hexNumber? (hex width n) = some n := by
  rw [hex, hexNumber?_zeros, hexNumber?_toDigits]

end Tabletop.Text

namespace Tabletop.Numeral

open Text (isDigit)

theorem value_append (digits : Text) (c : Char) :
    value (digits ++ [c]) = value digits * 10 + (Text.digitValue? c).getD 0 := by
  simp [value, List.foldl_append]

theorem value_lt (digits : Text) : value digits < 10 ^ digits.length := by
  induction digits using List.reverseRecOn with
  | nil => exact Nat.zero_lt_one
  | append_singleton rest c ih =>
    have := Text.digitValue_lt_ten c
    rw [value_append, List.length_append, List.length_singleton, Nat.pow_succ]
    omega

/-- Digits of the ASCII block have the value that the library gives them. -/
theorem value_of_ascii (digits : Text) (ascii : ∀ c ∈ digits, c.isDigit = true) :
    value digits = Nat.ofDigitChars 10 digits 0 := by
  induction digits using List.reverseRecOn with
  | nil => rfl
  | append_singleton rest c ih =>
    have here := Text.digitValue?_of_ascii (ascii c (by simp))
    rw [value_append, ih fun a member => ascii a (List.mem_append_left _ member), here,
      Nat.ofDigitChars_append, Nat.ofDigitChars_cons, Nat.ofDigitChars_nil, Nat.mul_comm]
    rfl

theorem ascii_of_mem_digits {n : Nat} {c : Char} (h : c ∈ digits n) : c.isDigit = true :=
  Nat.isDigit_of_mem_toDigits (by decide) (by decide) h

theorem isDigit_of_mem_digits {n : Nat} {c : Char} (h : c ∈ digits n) : isDigit c = true :=
  Text.isDigit_of_ascii (ascii_of_mem_digits h)

theorem digits_ne_nil (n : Nat) : digits n ≠ [] := Nat.toDigits_ne_nil

/-- The numeral of a number reads back as the number. -/
theorem value_digits (n : Nat) : value (digits n) = n := by
  rw [value_of_ascii _ fun c => ascii_of_mem_digits]
  exact Nat.ofDigitChars_ten_toDigits

theorem fits_iff {n : Int} : fits n = true ↔ n.natAbs < 10 ^ maxDigits := by
  have power (n : Nat) : Nat.pow 10 n = 10 ^ n := rfl
  unfold fits
  rw [decide_eq_true_iff, power]

theorem fits_natCast {n : Nat} : fits n = true ↔ n < 10 ^ maxDigits := fits_iff

theorem fits_of_lt {n digits : Nat} (small : n < 10 ^ digits) (few : digits ≤ maxDigits) :
    fits n = true :=
  fits_natCast.mpr (Nat.lt_of_lt_of_le small (Nat.pow_le_pow_right (by decide) few))

theorem fits_small {n : Nat} (small : n < 100) : fits n = true :=
  have twoDigits : n < 10 ^ 2 := small
  fits_of_lt twoDigits (by decide)

theorem fits_zero : fits 0 = true := fits_small (n := 0) (by decide)

theorem length_digits_le {n : Nat} (h : fits n = true) : (digits n).length ≤ maxDigits :=
  (Nat.length_toDigits_le_iff (by decide) (by decide)).mpr (fits_natCast.mp h)

/-- What is short enough to be read can be written again. -/
theorem fits_value {digits : Text} (short : digits.length ≤ maxDigits) :
    fits (value digits) = true :=
  fits_of_lt (value_lt digits) short

theorem leading_digits_append (n : Nat) {rest : Text}
    (stop : ∀ c ∈ rest.head?, c.isDigit = false) :
    leading (digits n ++ rest) = (digits n, rest) := by
  have ascii : ∀ c ∈ digits n, c.isDigit = true := fun c => ascii_of_mem_digits
  have ends : rest.takeWhile Char.isDigit = [] ∧ rest.dropWhile Char.isDigit = rest := by
    cases rest with
    | nil => exact ⟨rfl, rfl⟩
    | cons c tail => simp [stop c rfl]
  unfold leading
  split
  next tail first =>
    -- A zero in front of other digits would make the numeral longer than it has to be.
    cases written : digits n with
    | nil => exact absurd written (digits_ne_nil n)
    | cons zero more =>
      rw [written, List.cons_append, List.cons.injEq] at first
      obtain ⟨rfl, rfl⟩ := first
      have value : n = value more := by
        rw [← value_digits n, written]
        rfl
      cases more with
      | nil => rfl
      | cons c others =>
        have short : (digits n).length ≤ (c :: others).length :=
          (Nat.length_toDigits_le_iff (by decide) (Nat.succ_pos _)).mpr
            (value ▸ value_lt (c :: others))
        rw [written, List.length_cons] at short
        omega
  next =>
    rw [List.takeWhile_append_of_pos ascii, List.dropWhile_append_of_pos ascii, ends.1, ends.2,
      List.append_nil]

end Tabletop.Numeral
