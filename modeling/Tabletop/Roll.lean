import Tabletop.DiceGroup
import Tabletop.Notation.Reading

/-!
# Rolls

The expression evaluator (specification, 4.3) and the result formatter (4.4). A roll is a whole
expression with its dice groups and totals. Its text is one line, with the groups in their order,
then the sum of the flat terms, then the total.
-/
namespace Tabletop

structure Roll where
  expression : Text
  groups : List DiceGroup
  flatSum : Int
  total : Int
  formula : Text
  deriving DecidableEq, Repr

namespace Roll

def ofGroups (parsed : Parsed) (groups : List DiceGroup) : Roll :=
  let flatSum := Numeral.sum (parsed.flatTerms.map FlatTerm.value)
  { expression := parsed.expression
    groups := groups
    flatSum := flatSum
    total := Numeral.sum (groups.map DiceGroup.subtotal) + flatSum
    formula := parsed.formula }

variable {σ : Type} [DrawSource σ]

/-- The groups of the terms, rolled in order. -/
def groupsOf (limit : Int) : List DiceTerm → Rolling σ (List DiceGroup)
  | [] => pure []
  | term :: rest => do
    let first ← term.evaluate limit
    let others ← groupsOf limit rest
    return first :: others

def ofParsed (limits : Limits) (parsed : Parsed) : Rolling σ Roll := do
  let groups ← (groupsOf limits.bursts parsed.diceTerms).adapt (Fault.within parsed.expression)
  return ofGroups parsed groups

/-- Nothing is drawn unless the whole expression reads. -/
def ofExpression (limits : Limits) (raw : Text) : Rolling σ Roll :=
  match Notation.parse limits raw with
  | .error fault => throw fault
  | .ok parsed =>
    if parsed.terms.isEmpty then throw (.nothingToRoll raw) else ofParsed limits parsed

/-- Rolls from one source in turn, up to the first that fails. -/
def series (limits : Limits) : List Text → Rolling σ (List Roll)
  | [] => pure []
  | raw :: rest => do
    let first ← ofExpression limits raw
    let others ← series limits rest
    return first :: others

def text (roll : Roll) : Text :=
  let groups := Text.joined [' ', '+', ' '] (roll.groups.map DiceGroup.text)
  let flat := Numeral.digits roll.flatSum.natAbs
  (if groups.isEmpty then Numeral.written roll.flatSum
    else if roll.flatSum = 0 then groups
    else groups ++ [' ', if roll.flatSum < 0 then '-' else '+', ' '] ++ flat) ++
    [' ', '=', ' '] ++ Numeral.written roll.total

/-- The numbers that the roll's text writes. -/
def numerals (roll : Roll) : List Int :=
  roll.groups.flatMap DiceGroup.numerals ++ [roll.flatSum, roll.total]

/-- Every number in the roll's text can be written. -/
def isWritable (roll : Roll) : Bool := roll.numerals.all Numeral.fits

/-- The text, if it can be written. -/
def line (roll : Roll) : Except Fault Text :=
  if roll.isWritable then .ok roll.text else .error (.numeral .tooLongToWrite)

/-- A kept twenty-sided die shows the face. -/
def shows (face : Int) (roll : Roll) : Bool :=
  roll.groups.any fun group =>
    group.dice.any fun die => die.kept && die.sides == 20 && die.result == face

def isCritical (roll : Roll) : Bool := roll.shows 20

def isFumble (roll : Roll) : Bool := roll.shows 1

end Roll

end Tabletop
