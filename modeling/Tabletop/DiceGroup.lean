import Tabletop.Draw
import Tabletop.Fault

/-!
# Dice groups

The dice group evaluator (specification, 4.2), which rolls one dice term: the primary dice, one
extra die for each primary die that bursts, then the keep rule over all of them. Dice are ranked by
face and then by place, so of equal faces the earlier die ranks first from either end.
-/
namespace Tabletop

structure Die where
  result : Int
  sides : Int
  kept : Bool
  exploded : Bool
  deriving DecidableEq, Repr

/-- The dice of one term in roll order. A group from outside has no term. -/
structure DiceGroup where
  term : Option DiceTerm
  sides : Int
  count : Int
  dice : List Die
  subtotal : Int
  deriving DecidableEq, Repr

/-- Drawing can fail; what was drawn until then is gone from the source. -/
abbrev Rolling (σ : Type) := ExceptT Fault (StateM σ)

/-- The order of a ranking: by face, up or down, then by place. -/
def ranksBefore (descending : Bool) (a b : Int × Nat) : Bool :=
  if a.1 = b.1 then a.2 ≤ b.2 else if descending then b.1 < a.1 else a.1 < b.1

/-- The places of the faces from the first ranked to the last. -/
def rankedPlaces (descending : Bool) (faces : List Int) : List Nat :=
  (faces.zipIdx.mergeSort (ranksBefore descending)).map Prod.snd

namespace KeepRule

def descending (rule : KeepRule) : Bool :=
  match rule.kind with
  | .dropHighest | .keepHighest => true
  | .dropLowest | .keepLowest => false

def drops (rule : KeepRule) : Bool :=
  match rule.kind with
  | .dropLowest | .dropHighest => true
  | .keepHighest | .keepLowest => false

/-- Which faces are kept. A drop rule leaves one die of the `count` primary ones. -/
def keptFlags (rule : KeepRule) (count : Nat) (faces : List Int) : List Bool :=
  let ranked := rankedPlaces rule.descending faces
  let chosen := ranked.take (if rule.drops then min rule.amount (count - 1) else rule.amount)
  (List.range faces.length).map fun place => chosen.contains place != rule.drops

end KeepRule

namespace DiceTerm

def bursts (term : DiceTerm) (face : Int) : Bool :=
  match term.burst with
  | none => false
  | some threshold => decide (threshold ≤ face)

def keptFlags (term : DiceTerm) (faces : List Int) : List Bool :=
  match term.keep with
  | none => faces.map fun _ => true
  | some rule => rule.keptFlags term.count faces

def dieOf (term : DiceTerm) (face : Int) (flags : Bool × Bool) : Die :=
  ⟨face, term.sides, flags.1, flags.2⟩

/-- The group of the faces rolled, with a mark for each face that burst. -/
def groupOf (term : DiceTerm) (faces : List Int) (marks : List Bool) : DiceGroup :=
  let dice := List.zipWith term.dieOf faces ((term.keptFlags faces).zip marks)
  { term := some term
    sides := term.sides
    count := term.count
    dice := dice
    subtotal := Numeral.sum ((dice.filter Die.kept).map Die.result) + term.bonus }

variable {σ : Type} [DrawSource σ]

/-- One draw, which must be an integer from 1 to the sides. -/
def face (term : DiceTerm) : Rolling σ Int := do
  let value ← modifyGet fun source => DrawSource.draw source term.sides
  match value with
  | .integer n =>
    if 1 ≤ n ∧ n ≤ term.sides then return n else throw (Fault.ofRefusedDraw term value)
  | _ => throw (Fault.ofRefusedDraw term value)

def faces (term : DiceTerm) : Nat → Rolling σ (List Int)
  | 0 => pure []
  | n + 1 => do
    let first ← term.face
    let rest ← term.faces n
    return first :: rest

/-- The extra dice of the bursts still to be paid out, after `done` of them. -/
def extras (term : DiceTerm) (limit : Int) (done : Nat) : Nat → Rolling σ (List Int)
  | 0 => pure []
  | due + 1 =>
    if limit < done + 1 then throw (Fault.ofBursts term limit)
    else do
      let first ← term.face
      let rest ← term.extras limit (done + 1) due
      return first :: rest

/-- A term whose text cannot be written has no group, however its dice fall. -/
def evaluate (term : DiceTerm) (limit : Int) : Rolling σ DiceGroup := do
  let primary ← term.faces term.count
  let marks := primary.map term.bursts
  let extra ← term.extras limit 0 (marks.count true)
  if term.isWritable then
    return term.groupOf (primary ++ extra) (marks ++ extra.map fun _ => false)
  else throw (.numeral .tooLongToWrite)

end DiceTerm

/-- An exploded die shows a mark beside its face. -/
def Die.text (die : Die) : Text :=
  Numeral.written die.result ++ if die.exploded then ['!'] else []

namespace DiceGroup

def keptDice (group : DiceGroup) : List Die := group.dice.filter Die.kept

def droppedDice (group : DiceGroup) : List Die := group.dice.filter fun die => !die.kept

/-- What the subtotal holds beside the kept dice. -/
def bonus (group : DiceGroup) : Int :=
  group.subtotal - Numeral.sum (group.keptDice.map Die.result)

/-- The text of the term, or as much of it as the group itself tells. -/
def heading (group : DiceGroup) : Text :=
  match group.term with
  | some term => term.text
  | none =>
    Numeral.written group.count ++ 'd' :: Numeral.written group.sides ++
      DiceTerm.bonusText group.bonus

def facesText (dice : List Die) : Text := Text.joined [',', ' '] (dice.map Die.text)

def text (group : DiceGroup) : Text :=
  group.heading ++ [' ', '['] ++ facesText group.keptDice ++ [']'] ++
    if group.droppedDice.isEmpty then []
    else " (dropped: ".toList ++ facesText group.droppedDice ++ [')']

/-- The numbers that the group's text writes. -/
def numerals (group : DiceGroup) : List Int :=
  (match group.term with
    | some term => term.numerals
    | none => [group.count, group.sides, group.bonus]) ++ group.dice.map Die.result

end DiceGroup

end Tabletop
