import Tabletop.Text.Basic
import Tabletop.Text.DecimalDigit

/-!
# Numerals

Whole numbers as decimal text. A numeral of more than 4300 digits is neither read nor written;
leading zeros count as digits and a sign does not.
-/
namespace Tabletop.Numeral

def maxDigits : Nat := 4300

inductive Flaw where
  | tooLongToRead (digits : Nat)
  | tooLongToWrite
  deriving DecidableEq, Repr

/-- The number that decimal digits of any script stand for. -/
def value (digits : Text) : Nat :=
  digits.foldl (fun n c => n * 10 + (Text.digitValue? c).getD 0) 0

def read (digits : Text) : Except Flaw Nat :=
  if maxDigits < digits.length then .error (.tooLongToRead digits.length) else .ok (value digits)

/-- The ASCII digits at the front, and the text after them. A zero stands alone. -/
def leading : Text → Text × Text
  | '0' :: rest => (['0'], rest)
  | text => (text.takeWhile Char.isDigit, text.dropWhile Char.isDigit)

/-- The number has a numeral that is short enough to be written. The bound is too large to be
worked out in a proof. -/
@[irreducible] def fits (n : Int) : Bool := decide (n.natAbs < Nat.pow 10 maxDigits)

def digits (n : Nat) : Text := Nat.toDigits 10 n

def sum : List Int → Int
  | [] => 0
  | n :: rest => n + sum rest

theorem sum_append (first second : List Int) : sum (first ++ second) = sum first + sum second := by
  induction first with
  | nil => simp [sum]
  | cons n rest ih =>
    simp only [List.cons_append, sum, ih]
    omega

/-- The numeral of an integer, with a sign if it is negative. -/
def written (n : Int) : Text :=
  if n < 0 then '-' :: digits n.natAbs else digits n.natAbs

/-- The numeral of an integer, always with a sign. -/
def signed (n : Int) : Text :=
  (if n < 0 then '-' else '+') :: digits n.natAbs

def Flaw.message : Flaw → String
  | .tooLongToRead digits =>
    "Exceeds the limit (4300 digits) for integer string conversion: value has " ++
      toString digits ++ " digits; use sys.set_int_max_str_digits() to increase the limit"
  | .tooLongToWrite =>
    "Exceeds the limit (4300 digits) for integer string conversion; " ++
      "use sys.set_int_max_str_digits() to increase the limit"

end Tabletop.Numeral
