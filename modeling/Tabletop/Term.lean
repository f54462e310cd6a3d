import Tabletop.Numeral

/-!
# Terms

The terms of the data model (specification, 3 and 10.2): what a dice expression is made of, and its
canonical text. A modifier that bursts on the highest face is written without its threshold, and a
bonus of zero is not written.
-/
namespace Tabletop

inductive KeepKind where
  | dropLowest | dropHighest | keepHighest | keepLowest
  deriving DecidableEq, Repr

def KeepKind.code : KeepKind → Text
  | .dropLowest => ['d', 'l']
  | .dropHighest => ['d', 'h']
  | .keepHighest => ['k', 'h']
  | .keepLowest => ['k', 'l']

/-- How many dice to drop or keep, and from which end. -/
structure KeepRule where
  kind : KeepKind
  amount : Nat
  deriving DecidableEq, Repr

def KeepRule.text (rule : KeepRule) : Text := rule.kind.code ++ Numeral.digits rule.amount

/-- A die showing at least `burst` adds one extra die. `source` is the text the term was read
from. -/
structure DiceTerm where
  count : Nat
  sides : Nat
  keep : Option KeepRule
  burst : Option Int
  bonus : Int
  source : Text
  deriving DecidableEq, Repr

namespace DiceTerm

def hasModifier (term : DiceTerm) : Bool := term.keep.isSome || term.burst.isSome

theorem hasModifier_iff {term : DiceTerm} :
    term.hasModifier = true ↔ term.keep.isSome = true ∨ term.burst.isSome = true :=
  Bool.or_eq_true_iff

def burstText (term : DiceTerm) : Text :=
  match term.burst with
  | none => []
  | some threshold =>
    if threshold = term.sides then ['x'] else 'x' :: '>' :: Numeral.written threshold

def keepText (term : DiceTerm) : Text :=
  match term.keep with
  | none => []
  | some rule => rule.text

/-- The burst comes first because it is applied first. -/
def modifierText (term : DiceTerm) : Text := term.burstText ++ term.keepText

/-- The term with a bonus that was written after it. -/
def withBonus (term : DiceTerm) (bonus : Int) (written : Text) : DiceTerm :=
  { term with bonus := bonus, source := term.source ++ written }

def bonusText (bonus : Int) : Text := if bonus = 0 then [] else Numeral.signed bonus

def text (term : DiceTerm) : Text :=
  Numeral.digits term.count ++ 'd' :: Numeral.digits term.sides ++ term.modifierText ++
    bonusText term.bonus

/-- The numbers that the term's text writes. -/
def numerals (term : DiceTerm) : List Int :=
  [(term.count : Int), term.sides, term.bonus] ++ term.burst.toList ++
    (term.keep.map fun rule => (rule.amount : Int)).toList

/-- Every number in the term's text can be written. -/
def isWritable (term : DiceTerm) : Bool := term.numerals.all Numeral.fits

end DiceTerm

/-- An integer that belongs to no dice. -/
structure FlatTerm where
  value : Int
  source : Text
  deriving DecidableEq, Repr

inductive Term where
  | dice (term : DiceTerm)
  | flat (term : FlatTerm)
  deriving DecidableEq, Repr

namespace Term

def dice? : Term → Option DiceTerm
  | .dice term => some term
  | .flat _ => none

def flat? : Term → Option FlatTerm
  | .dice _ => none
  | .flat term => some term

/-- The text of a first term. -/
def opening : Term → Text
  | .dice term => term.text
  | .flat term => Numeral.written term.value

/-- The text of a later term, its sign set apart. -/
def following : Term → Text
  | .dice term => '+' :: ' ' :: term.text
  | .flat term =>
    (if term.value < 0 then '-' else '+') :: ' ' :: Numeral.digits term.value.natAbs

end Term

/-- The canonical text of the terms in their order. -/
def formula : List Term → Text
  | [] => []
  | first :: rest => first.opening ++ rest.flatMap fun term => ' ' :: term.following

end Tabletop
