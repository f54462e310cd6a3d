import Tabletop.Fault
import Tabletop.Notation.Lexeme
import Tabletop.Text.Blank
import Tabletop.Text.Case

/-!
# Reading dice notation

The parser (specification, 4.1 and 10.3). Lexemes become terms from left to right. Of the keep rules
and of the bursts in a suffix the first one with a positive amount counts, and what does not count
is kept as ignored text. A signed integer right after dice with a modifier is their bonus. A numeral
that is too long to be read is its own fault.
-/
namespace Tabletop

/-- Bounds on one dice term: dice, sides, and extra dice from bursts. -/
structure Limits where
  dice : Int
  sides : Int
  bursts : Int
  deriving DecidableEq, Repr

/-- Normalized text, its terms in order, and the text that is in no term. -/
structure Parsed where
  expression : Text
  terms : List Term
  ignored : List Text
  deriving DecidableEq, Repr

namespace Parsed

def diceTerms (parsed : Parsed) : List DiceTerm := parsed.terms.filterMap Term.dice?

def flatTerms (parsed : Parsed) : List FlatTerm := parsed.terms.filterMap Term.flat?

def formula (parsed : Parsed) : Text := Tabletop.formula parsed.terms

end Parsed

namespace Notation

def readNumeral (digits : Text) : Except Fault Nat :=
  match Numeral.read digits with
  | .ok n => .ok n
  | .error flaw => .error (.numeral flaw)

/-- An amount that is not written is one. -/
def readAmount (digits : Text) : Except Fault Nat :=
  if digits.isEmpty then .ok 1 else readNumeral digits

def Whole.read (number : Whole) : Except Fault Int := do
  let size ← readNumeral number.digits
  return if number.sign = some .minus then -(size : Int) else size

/-- Count and sides within the limits. -/
def Head.read (limits : Limits) (expression : Text) (head : Head) : Except Fault (Nat × Nat) :=
  let refuse (flaw : Flaw) : Except Fault (Nat × Nat) :=
    .error (.ofFlaw flaw expression head.text)
  if head.sign = some .minus then refuse .subtracted
  else do
    let count ← readAmount head.count
    let sides ← readNumeral head.sides
    if count < 1 then refuse .noDice
    else if sides < 1 then refuse .noSides
    else if limits.dice < count then refuse (.tooManyDice count limits.dice)
    else if limits.sides < sides then refuse (.tooManySides sides limits.sides)
    else return (count, sides)

structure Suffix where
  keep : Option KeepRule
  burst : Option Int
  ignored : List Text
  deriving DecidableEq, Repr

def Suffix.ignoring (text : Text) (suffix : Suffix) : Suffix :=
  { suffix with ignored := text :: suffix.ignored }

/-- The suffix pieces after those that set `keep` and `burst`. -/
def readSuffix (sides : Nat) (keep : Option KeepRule) (burst : Option Int) :
    List Piece → Except Fault Suffix
  | [] => .ok ⟨keep, burst, []⟩
  | .keep kind amount :: rest => do
    let n ← readAmount amount
    if keep.isNone && 1 ≤ n then readSuffix sides (some ⟨kind, n⟩) burst rest
    else return (← readSuffix sides keep burst rest).ignoring (Piece.keep kind amount).text
  | .burst threshold :: rest => do
    let n ← match threshold with
      | none => pure sides
      | some digits => readNumeral digits
    if burst.isNone && 1 ≤ n then readSuffix sides keep (some n) rest
    else return (← readSuffix sides keep burst rest).ignoring (Piece.burst threshold).text
  | .stray text :: rest => do
    return (← readSuffix sides keep burst rest).ignoring text

/-- A dice term without a bonus, and the ignored pieces of its suffix. -/
def readDice (limits : Limits) (expression : Text) (head : Head) (suffix : List Piece) :
    Except Fault (DiceTerm × List Text) := do
  let (count, sides) ← head.read limits expression
  let found ← readSuffix sides none none suffix
  return ({ count, sides
            keep := found.keep
            burst := found.burst
            bonus := 0
            source := head.unsigned ++ suffix.flatMap Piece.text }, found.ignored)

/-- The terms and the ignored text of the lexemes. -/
def readTerms (limits : Limits) (expression : Text) :
    List Lexeme → Except Fault (List Term × List Text)
  | [] => .ok ([], [])
  | .stray text :: rest => do
    let (terms, ignored) ← readTerms limits expression rest
    return (terms, text :: ignored)
  | .whole number :: rest => do
    let value ← number.read
    let (terms, ignored) ← readTerms limits expression rest
    return (.flat ⟨value, number.text⟩ :: terms, ignored)
  | .dice head suffix :: .whole number :: rest => do
    let (term, dropped) ← readDice limits expression head suffix
    let value ← number.read
    let (terms, ignored) ← readTerms limits expression rest
    if term.hasModifier && number.sign.isSome then
      return (.dice (term.withBonus value number.text) :: terms, dropped ++ ignored)
    else return (.dice term :: .flat ⟨value, number.text⟩ :: terms, dropped ++ ignored)
  | .dice head suffix :: rest => do
    let (term, dropped) ← readDice limits expression head suffix
    let (terms, ignored) ← readTerms limits expression rest
    return (.dice term :: terms, dropped ++ ignored)

/-- Reading without the demand that something be found. -/
def scan (limits : Limits) (text : Text) : Except Fault Parsed := do
  let (terms, ignored) ← readTerms limits text (lexemes text)
  return ⟨text, terms, ignored⟩

/-- Without blanks, in lower case. -/
def normalize (raw : Text) : Text := Text.lower (Text.withoutBlanks raw)

/-- Text that is not blank must hold a term. -/
def parse (limits : Limits) (raw : Text) : Except Fault Parsed := do
  let parsed ← scan limits (normalize raw)
  if parsed.terms.isEmpty && !parsed.expression.isEmpty then
    .error (.unreadable (.nothingFound raw) parsed.expression parsed.expression)
  else return parsed

end Notation

end Tabletop
