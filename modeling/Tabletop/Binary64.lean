import Tabletop.Text.Basic

/-!
# Binary64 numbers

Reading rounds a decimal to the nearest number, a half going to the even mantissa. Writing takes
the fewest decimal digits that read back as the number, and of those the nearest.
All of it is exact arithmetic on natural numbers. No arithmetic on the numbers themselves is held.
-/
namespace Tabletop

/-- A finite number is `±mantissa · 2 ^ exponent`, with `mantissa < 2 ^ 53`; the exponent is at
least -1074, and is -1074 if the mantissa is below `2 ^ 52`. -/
inductive Binary64 where
  | finite (negative : Bool) (mantissa : Nat) (exponent : Int)
  | infinite (negative : Bool)
  | undefined
  deriving DecidableEq, Repr, Inhabited

namespace Binary64

def minExponent : Int := -1074
def maxExponent : Int := 971

/-- `num / den · base ^ power` as a quotient of natural numbers. -/
def scaled (base num den : Nat) (power : Int) : Nat × Nat :=
  if 0 ≤ power then (num * Nat.pow base power.toNat, den)
  else (num, den * Nat.pow base (-power).toNat)

/-- The nearest natural number to a quotient, a half going to the even one. -/
def nearest (num den : Nat) : Nat :=
  let floor := num / den
  let twice := 2 * (num % den)
  if den < twice || (twice == den && floor % 2 == 1) then floor + 1 else floor

/-- The largest power of two that is at most `num / den`. -/
def leadingPower (num den : Nat) : Int :=
  let gap : Int := (num.log2 : Int) - den.log2
  let (scaledNum, scaledDen) := scaled 2 num den (-gap)
  if scaledDen ≤ scaledNum then gap else gap - 1

def ofQuotient (negative : Bool) (num den : Nat) : Binary64 :=
  if num = 0 then .finite negative 0 minExponent
  else
    let exponent := max minExponent (leadingPower num den - 52)
    let (scaledNum, scaledDen) := scaled 2 num den (-exponent)
    let mantissa := nearest scaledNum scaledDen
    let (mantissa, exponent) :=
      if mantissa = Nat.pow 2 53 then (Nat.pow 2 52, exponent + 1) else (mantissa, exponent)
    if maxExponent < exponent then .infinite negative else .finite negative mantissa exponent

/-- The number nearest to `±digits · 10 ^ place`. -/
def ofDecimal (negative : Bool) (digits : Nat) (place : Int) : Binary64 :=
  let point := (Nat.toDigits 10 digits).length + place
  if digits = 0 || point < -330 then .finite negative 0 minExponent
  else if 310 < point then .infinite negative
  else
    let (num, den) := scaled 10 digits 1 place
    ofQuotient negative num den

/-- The integer that the number is, if it is finite and has no fraction. -/
def whole? : Binary64 → Option Int
  | .finite negative mantissa exponent =>
    let (num, den) := scaled 2 mantissa 1 exponent
    if num % den = 0 then some (if negative then -(num / den : Nat) else (num / den : Nat))
    else none
  | _ => none

def isFinite : Binary64 → Bool
  | .finite .. => true
  | _ => false

/-- A positive number and the ends of the interval of reals that round to it, over one
denominator. The ends belong to the interval if the mantissa is even. -/
structure Interval where
  low : Nat
  value : Nat
  high : Nat
  den : Nat
  closed : Bool

def interval (mantissa : Nat) (exponent : Int) : Interval :=
  let gapBelow := if mantissa = Nat.pow 2 52 && minExponent < exponent then 1 else 2
  let (unit, den) := scaled 2 1 1 (exponent - 2)
  { low := (4 * mantissa - gapBelow) * unit
    value := 4 * mantissa * unit
    high := (4 * mantissa + 2) * unit
    den := den
    closed := mantissa % 2 == 0 }

/-- The decimal `digits · 10 ^ place` lies in the interval. -/
def Interval.holds (i : Interval) (digits : Nat) (place : Int) : Bool :=
  let (num, den) := scaled 10 digits 1 place
  let point := num * i.den
  if i.closed then i.low * den ≤ point && point ≤ i.high * den
  else i.low * den < point && point < i.high * den

/-- The largest power of ten that is at most the value. -/
def Interval.leadingPlace (i : Interval) : Int :=
  if i.den ≤ i.value then ((Nat.toDigits 10 (i.value / i.den)).length : Int) - 1
  else -(((List.range 400).find? fun place => i.den ≤ i.value * Nat.pow 10 place).getD 0 : Nat)

/-- The multiple of `10 ^ place` in the interval that is nearest to the value, if there is one. -/
def Interval.onGrid? (i : Interval) (place : Int) : Option Nat :=
  let (num, den) := scaled 10 i.value i.den (-place)
  let below := num / den
  match i.holds below place, i.holds (below + 1) place with
  | true, true => some (nearest num den)
  | true, false => some below
  | false, true => some (below + 1)
  | false, false => none

/-- The fewest digits that read back, and the place of the last one. -/
def shortest (mantissa : Nat) (exponent : Int) : Nat × Int :=
  let i := interval mantissa exponent
  let lead := i.leadingPlace
  ((List.range 17).findSome? fun (n : Nat) =>
    (i.onGrid? (lead - n)).map fun digits => (digits, lead - n)).getD (0, 0)

/-- The digits of `digits · 10 ^ place`, positional while the point is at most 16 places behind
and at most 3 before the first digit, in powers of ten otherwise. -/
def laidOut (digits : Nat) (place : Int) : Text :=
  let all := Nat.toDigits 10 digits
  let point : Int := all.length + place
  let kept := (all.reverse.dropWhile (· == '0')).reverse
  if -4 < point && point ≤ 16 then
    if point ≤ 0 then ['0', '.'] ++ List.replicate (-point).toNat '0' ++ kept
    else if kept.length ≤ point.toNat then
      kept ++ List.replicate (point.toNat - kept.length) '0' ++ ['.', '0']
    else kept.take point.toNat ++ '.' :: kept.drop point.toNat
  else
    let power := point - 1
    let powerDigits := Nat.toDigits 10 power.natAbs
    kept.take 1 ++ (if kept.length ≤ 1 then [] else '.' :: kept.drop 1) ++
      ['e', if power < 0 then '-' else '+'] ++
      List.replicate (2 - powerDigits.length) '0' ++ powerDigits

/-- The shortest text that reads back as the number, always with a fraction or a power. -/
def shown : Binary64 → Text
  | .undefined => "nan".toList
  | .infinite negative => (if negative then "-inf" else "inf").toList
  | .finite negative mantissa exponent =>
    let magnitude :=
      if mantissa = 0 then "0.0".toList
      else
        let (digits, place) := shortest mantissa exponent
        laidOut digits place
    if negative then '-' :: magnitude else magnitude

end Binary64

end Tabletop
