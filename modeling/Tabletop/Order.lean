import Tabletop.Event
import Tabletop.Text.Case

/-!
# Orders

Attribute checks, damage and healing (specification, 10.4). An order says what to roll and under
which label. A label takes the place of the flavor that the roller asked for, and nothing else that
was asked for changes.
-/
namespace Tabletop

structure Order where
  expression : Text
  label : Option Text
  deriving DecidableEq, Repr

def Order.plain (expression : Text) : Order := ⟨expression, none⟩

def Order.damage (expression kind : Text) : Order :=
  ⟨expression, some (Text.capitalized kind ++ " Damage".toList)⟩

def RollOptions.under (order : Order) (options : RollOptions) : RollOptions :=
  match order.label with
  | none => options
  | some label => options.labelled label

/-- Which of two twenty-sided dice counts, where two are rolled. -/
inductive Edge where
  | none | advantage | disadvantage
  deriving DecidableEq, Repr

namespace Edge

/-- Both at once cancel. -/
def ofFlags (advantage disadvantage : Bool) : Edge :=
  if advantage == disadvantage then none else if advantage then .advantage else .disadvantage

def dice : Edge → Text
  | none => "1d20".toList
  | advantage => "2d20kh1".toList
  | disadvantage => "2d20kl1".toList

def remark : Edge → Text
  | none => []
  | advantage => " (Advantage)".toList
  | disadvantage => " (Disadvantage)".toList

end Edge

/-- A roll of a twenty-sided die for an ability. -/
structure Check where
  ability : Text
  bonus : Int
  edge : Edge
  deriving DecidableEq, Repr

namespace Check

def label (check : Check) : Text :=
  Text.capitalized check.ability ++ " Check".toList ++ check.edge.remark

/-- A bonus of zero is not written. One that has no numeral cannot be ordered. -/
def order (check : Check) : Except Fault Order :=
  if Numeral.fits check.bonus then
    .ok ⟨check.edge.dice ++ DiceTerm.bonusText check.bonus, some check.label⟩
  else .error (.numeral .tooLongToWrite)

end Check

end Tabletop
