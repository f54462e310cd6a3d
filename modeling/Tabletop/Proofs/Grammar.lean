import Mathlib.Data.List.Chain
import Tabletop.Proofs.Normalization
import Tabletop.Proofs.Scanning

/-!
# The grammar of dice notation

Terms as they can be written down, each with its text and its meaning. The main statement is that
parsing accepts every such text with its documented meaning, ignores nothing, and is blind to
blanks and to the case of letters. What parsing makes of any other text is not stated here.
-/
namespace Tabletop.Notation

open Text (isDigit)

/-- Decimal digits that are few enough to be read. Leading zeros are digits like others. -/
structure DigitRun where
  text : Text
  nonempty : text ≠ []
  digits : ∀ c ∈ text, isDigit c = true
  short : text.length ≤ Numeral.maxDigits

namespace DigitRun

def value (run : DigitRun) : Nat := Numeral.value run.text

/-- The numeral of a number. -/
def ofNat (n : Nat) (fits : Numeral.fits n = true) : DigitRun where
  text := Numeral.digits n
  nonempty := Numeral.digits_ne_nil n
  digits := fun _ => Numeral.isDigit_of_mem_digits
  short := Numeral.length_digits_le fits

@[simp] theorem value_ofNat (n : Nat) (fits : Numeral.fits n = true) : (ofNat n fits).value = n :=
  Numeral.value_digits n

/-- A run that may be left out. -/
def textOf : Option DigitRun → Text
  | none => []
  | some run => run.text

theorem digits_textOf {run : Option DigitRun} : ∀ c ∈ textOf run, isDigit c = true := by
  cases run with
  | none => exact List.forall_mem_nil _
  | some run => exact run.digits

end DigitRun

/-- A signed integer, or one whose sign is left out. -/
structure WrittenInteger where
  sign : Option Sign
  run : DigitRun

namespace WrittenInteger

def text (number : WrittenInteger) : Text := signText number.sign ++ number.run.text

def value (number : WrittenInteger) : Int :=
  if number.sign = some .minus then -(number.run.value : Int) else number.run.value

def whole (number : WrittenInteger) : Whole := ⟨number.sign, number.run.text⟩

@[simp] theorem text_whole (number : WrittenInteger) : number.whole.text = number.text := rfl

@[simp] theorem sign_whole (number : WrittenInteger) : number.whole.sign = number.sign := rfl

end WrittenInteger

/-- A keep or drop suffix, whose amount may be left out. -/
structure WrittenKeep where
  kind : KeepKind
  amount : Option DigitRun

namespace WrittenKeep

def text (keep : WrittenKeep) : Text := keep.kind.code ++ DigitRun.textOf keep.amount

def rule (keep : WrittenKeep) : KeepRule := ⟨keep.kind, keep.amount.elim 1 DigitRun.value⟩

end WrittenKeep

/-- An explosion suffix, whose threshold may be left out. -/
structure WrittenBurst where
  threshold : Option DigitRun

namespace WrittenBurst

def text (burst : WrittenBurst) : Text :=
  match burst.threshold with
  | none => ['x']
  | some run => 'x' :: '>' :: run.text

/-- Without a threshold the highest face bursts. -/
def value (sides : Nat) (burst : WrittenBurst) : Nat := burst.threshold.elim sides DigitRun.value

end WrittenBurst

/-- Dice with at most one modifier of each sort, in either order, and a bound integer. -/
structure WrittenDice where
  count : Option DigitRun
  sides : DigitRun
  keep : Option WrittenKeep
  burst : Option WrittenBurst
  keepFirst : Bool
  bonus : Option WrittenInteger

namespace WrittenDice

def hasModifier (dice : WrittenDice) : Bool := dice.keep.isSome || dice.burst.isSome

/-- A signed integer after these dice would be read as theirs. -/
def isOpen (dice : WrittenDice) : Bool := dice.hasModifier && dice.bonus.isNone

def keepText (dice : WrittenDice) : Text := dice.keep.elim [] WrittenKeep.text

def burstText (dice : WrittenDice) : Text := dice.burst.elim [] WrittenBurst.text

def modifierText (dice : WrittenDice) : Text :=
  if dice.keepFirst then dice.keepText ++ dice.burstText else dice.burstText ++ dice.keepText

def bonusText (dice : WrittenDice) : Text := dice.bonus.elim [] WrittenInteger.text

/-- The text up to a bound integer. -/
def stem (dice : WrittenDice) : Text :=
  DigitRun.textOf dice.count ++ 'd' :: dice.sides.text ++ dice.modifierText

def text (dice : WrittenDice) : Text := dice.stem ++ dice.bonusText

/-- What the dice mean: one die, one kept or dropped, the highest face and no bonus where nothing
else is written. -/
def term (dice : WrittenDice) : DiceTerm where
  count := dice.count.elim 1 DigitRun.value
  sides := dice.sides.value
  keep := dice.keep.map WrittenKeep.rule
  burst := dice.burst.map fun burst => (burst.value dice.sides.value : Int)
  bonus := dice.bonus.elim 0 WrittenInteger.value
  source := dice.text

/-- The numbers are within the limits, no modifier is void, and only dice with a modifier bind an
integer, which then has a sign. -/
structure Admissible (limits : Limits) (dice : WrittenDice) : Prop where
  count_pos : 1 ≤ dice.term.count
  count_le : (dice.term.count : Int) ≤ limits.dice
  sides_pos : 1 ≤ dice.term.sides
  sides_le : (dice.term.sides : Int) ≤ limits.sides
  amount_pos : ∀ keep ∈ dice.keep, 1 ≤ keep.rule.amount
  threshold_pos : ∀ burst ∈ dice.burst, 1 ≤ burst.value dice.sides.value
  bonus_signed : ∀ bonus ∈ dice.bonus, bonus.sign.isSome = true
  bonus_bound : dice.bonus.isSome = true → dice.hasModifier = true

end WrittenDice

/-- Dice, after a plus or not, or a flat integer. -/
inductive WrittenTerm where
  | dice (plus : Bool) (written : WrittenDice)
  | flat (number : WrittenInteger)

namespace WrittenTerm

def text : WrittenTerm → Text
  | .dice plus written => (if plus then ['+'] else []) ++ written.text
  | .flat number => number.text

def term : WrittenTerm → Term
  | .dice _ written => .dice written.term
  | .flat number => .flat ⟨number.value, number.text⟩

def Admissible (limits : Limits) : WrittenTerm → Prop
  | .dice _ written => written.Admissible limits
  | .flat _ => True

/-- The term begins with a sign, as every term but the first has to. -/
def isSigned : WrittenTerm → Bool
  | .dice plus _ => plus
  | .flat number => number.sign.isSome

def isFlat : WrittenTerm → Bool
  | .dice .. => false
  | .flat _ => true

def isOpen : WrittenTerm → Bool
  | .dice _ written => written.isOpen
  | .flat _ => false

/-- One term may stand right after another. -/
def MayFollow (first second : WrittenTerm) : Prop :=
  second.isSigned = true ∧ ¬(first.isOpen = true ∧ second.isFlat = true)

instance : DecidableRel MayFollow := fun _ _ => inferInstanceAs (Decidable (_ ∧ _))

end WrittenTerm

/-- The terms one after the other. -/
def textOf (terms : List WrittenTerm) : Text := terms.flatMap WrittenTerm.text

end Tabletop.Notation
