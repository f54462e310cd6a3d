import Tabletop.Roll

/-!
# Events

The event of the result channel (specification, 10.5): a finished roll as it is announced, with the
context that the roller gave.
-/
namespace Tabletop

/-- What the roller asks for beside the dice. The speaker is passed on unread. -/
structure RollOptions where
  send : Bool := true
  flavor : Option Text := none
  speaker : Option Document.Fields := none
  deriving Repr

def RollOptions.labelled (options : RollOptions) (flavor : Text) : RollOptions :=
  { options with flavor := some flavor }

structure Event where
  roll : Roll
  breakdown : Text
  flavor : Option Text
  speaker : Option Document.Fields
  critical : Bool
  fumble : Bool
  deriving Repr

def Event.ofRoll (roll : Roll) (options : RollOptions) : Event :=
  { roll := roll
    breakdown := roll.text
    flavor := options.flavor
    speaker := options.speaker
    critical := roll.isCritical
    fumble := roll.isFumble }

end Tabletop
