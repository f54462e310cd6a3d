import Tabletop.Text.Basic

/-!
# Hexadecimal digits

Written in lower case, read in either.
-/
namespace Tabletop.Text

/-- The lower-case digits of a number, zero-padded to a width. -/
def hex (width : Nat) (n : Nat) : Text :=
  let digits := Nat.toDigits 16 n
  List.replicate (width - digits.length) '0' ++ digits

def hexValue? (c : Char) : Option Nat :=
  if c.isDigit then some (c.toNat - 48)
  else if 'a' ≤ c && c ≤ 'f' then some (c.toNat - 87)
  else if 'A' ≤ c && c ≤ 'F' then some (c.toNat - 55)
  else none

/-- The number of several digits, the first one leading. -/
def hexNumber? (digits : Text) : Option Nat :=
  digits.foldl (fun number c => do return (← number) * 16 + (← hexValue? c)) (some 0)

end Tabletop.Text
