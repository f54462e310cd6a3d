import Tabletop.Document
import Tabletop.Term

/-!
# Faults

The errors (specification, 7 and 10.7): why a request is refused, as causes. A fault of notation or
rolling names the normalized expression and the fragment at fault; the wording is in `Fault.message`
alone.
-/
namespace Tabletop

/-- What is wrong with an expression. -/
inductive Notation.Flaw where
  | subtracted
  | noDice
  | noSides
  | tooManyDice (count : Nat) (limit : Int)
  | tooManySides (sides : Nat) (limit : Int)
  | nothingFound (raw : Text)
  deriving DecidableEq, Repr

inductive Fault where
  | unreadable (flaw : Notation.Flaw) (expression fragment : Text)
  | nothingToRoll (raw : Text)
  | burstTooOften (expression : Text) (term : DiceTerm) (limit : Int)
  | refusedDraw (expression : Text) (term : DiceTerm) (value : Document)
  | notACommand (raw content : Text)
  | unknownCommand (name : Text)
  | numeral (flaw : Numeral.Flaw)
  | capacity (asked : Int)
  | oversized
  | unknownLevel (name : Text)
  | noTable
  | notFinite
  | tooDeep
  deriving Repr

def Notation.Flaw.message (fragment : Text) : Notation.Flaw → Text
  | .subtracted => "Subtracting dice is not supported: ".toList ++ Text.quoted fragment
  | .noDice => "Dice count must be at least 1: ".toList ++ Text.quoted fragment
  | .noSides => "Dice must have at least 1 side: ".toList ++ Text.quoted fragment
  | .tooManyDice count limit =>
    "Too many dice: ".toList ++ Numeral.digits count ++ " (max ".toList ++
      Numeral.written limit ++ [')']
  | .tooManySides sides limit =>
    "Too many sides: ".toList ++ Numeral.digits sides ++ " (max ".toList ++
      Numeral.written limit ++ [')']
  | .nothingFound raw => "No dice or modifier found in ".toList ++ Text.quoted raw

/-- The numbers that the wording of a flaw holds. -/
def Notation.Flaw.numerals : Notation.Flaw → List Int
  | .tooManyDice count limit | .tooManySides count limit => [(count : Int), limit]
  | .subtracted | .noDice | .noSides | .nothingFound _ => []

namespace Fault

def message : Fault → Text
  | .unreadable flaw _ fragment => flaw.message fragment
  | .nothingToRoll raw => "Nothing to roll in ".toList ++ Text.quoted raw
  | .burstTooOften _ term limit =>
    term.text ++ " exploded more than ".toList ++ Numeral.written limit ++ " times".toList
  | .refusedDraw _ term value =>
    "Random source returned ".toList ++ value.quoted ++ " for a d".toList ++
      Numeral.digits term.sides
  | .notACommand raw _ => "Not a command: ".toList ++ Text.quoted raw
  | .unknownCommand name => "Unknown command: /".toList ++ name
  | .numeral flaw => flaw.message.toList
  | .capacity asked =>
    "History capacity must be at least 1, got ".toList ++ Numeral.written asked
  | .oversized => "Python int too large to convert to C ssize_t".toList
  | .unknownLevel name => "Unknown level: ".toList ++ Text.quoted name
  | .noTable => "Table not found".toList
  | .notFinite => "Out of range float values are not JSON compliant".toList
  | .tooDeep => "Maximum serialization depth exceeded".toList

/-- The normalized expression, empty where none was being rolled. -/
def expression : Fault → Text
  | .unreadable _ expression _ => expression
  | .burstTooOften expression _ _ => expression
  | .refusedDraw expression _ _ => expression
  | _ => []

/-- The text at fault, where it can be pinned down. -/
def fragment : Fault → Option Text
  | .unreadable _ _ fragment => some fragment
  | .burstTooOften _ term _ => some term.source
  | .refusedDraw _ term _ => some term.source
  | .notACommand _ content => some content
  | .unknownCommand name => some ('/' :: name)
  | _ => none

/-- The fault as one of rolling an expression, unless it names one already. -/
def within (expression : Text) : Fault → Fault
  | .burstTooOften [] term limit => .burstTooOften expression term limit
  | .refusedDraw [] term value => .refusedDraw expression term value
  | fault => fault

/-- A fault whose wording holds numbers is replaced where one of them cannot be written. -/
def worded (writable : Bool) (fault : Fault) : Fault :=
  if writable then fault else .numeral .tooLongToWrite

def ofRefusedDraw (term : DiceTerm) (value : Document) : Fault :=
  worded (value.isWritable && Numeral.fits term.sides) (.refusedDraw [] term value)

def ofBursts (term : DiceTerm) (limit : Int) : Fault :=
  worded (term.isWritable && Numeral.fits limit) (.burstTooOften [] term limit)

def ofCapacity (asked : Int) : Fault := worded (Numeral.fits asked) (.capacity asked)

def ofFlaw (flaw : Notation.Flaw) (expression fragment : Text) : Fault :=
  worded (flaw.numerals.all Numeral.fits) (.unreadable flaw expression fragment)

end Fault

end Tabletop
