import Tabletop.Document
import Tabletop.Text.Encoding
import Tabletop.Text.Hexadecimal

/-!
# Documents as JSON

Reading is strict JSON with `NaN`, `Infinity` and `-Infinity` as numbers; of two fields of one name
the later value counts. A number without fraction and power is an integer of any size that a
numeral may have. An escaped surrogate that has no partner becomes U+FFFD. Lists and objects nest as
deep as the reader allows, and the first flaw from the left counts.
-/
namespace Tabletop.Json

inductive Flaw where
  | malformed
  | tooDeep
  | numeral (flaw : Numeral.Flaw)
  deriving DecidableEq, Repr

def skipBlanks (text : Text) : Text :=
  text.dropWhile fun c => c == ' ' || c == '\t' || c == '\n' || c == '\r'

/-- The character that a backslash and a letter stand for. -/
def unescaped? (c : Char) : Option Char :=
  [('\x22', '\x22'), ('\x5c', '\x5c'), ('/', '/'), ('b', '\x08'), ('f', '\x0c'), ('n', '\n'),
    ('r', '\r'), ('t', '\t')].lookup c

/-- The code units up to the closing quote, and the text after it. -/
def stringCodes : Text → Option (List Nat × Text)
  | [] => none
  | '\x22' :: rest => some ([], rest)
  | '\x5c' :: 'u' :: a :: b :: c :: d :: rest => do
    let code ← Text.hexNumber? [a, b, c, d]
    let (codes, rest) ← stringCodes rest
    return (code :: codes, rest)
  | '\x5c' :: c :: rest => do
    let plain ← unescaped? c
    let (codes, rest) ← stringCodes rest
    return (plain.toNat :: codes, rest)
  | c :: rest =>
    if c.toNat < 0x20 then none
    else do
      let (codes, rest) ← stringCodes rest
      return (c.toNat :: codes, rest)

def string (text : Text) : Except Flaw (String × Text) :=
  match stringCodes text with
  | some (codes, rest) => .ok (String.ofList (Text.joinSurrogates codes), rest)
  | none => .error .malformed

/-- A sign character, if the text begins with one, read as "is minus". -/
def powerSign : Text → Bool × Text
  | '-' :: rest => (true, rest)
  | '+' :: rest => (false, rest)
  | text => (false, text)

/-- The fraction digits after a point; a point without digits is left alone. -/
def fraction : Text → Text × Text
  | '.' :: rest =>
    if (rest.takeWhile Char.isDigit).isEmpty then ([], '.' :: rest)
    else (rest.takeWhile Char.isDigit, rest.dropWhile Char.isDigit)
  | text => ([], text)

/-- The power of ten after `e` or `E`, if there is one with digits. -/
def power? : Text → Option (Int × Text)
  | [] => none
  | c :: rest =>
    let (negative, rest) := powerSign rest
    let digits := rest.takeWhile Char.isDigit
    if (c == 'e' || c == 'E') && !digits.isEmpty then
      let size : Int := Numeral.value digits
      some (if negative then -size else size, rest.dropWhile Char.isDigit)
    else none

def number (negative : Bool) (text : Text) : Except Flaw (Document × Text) :=
  let (whole, rest) := Numeral.leading text
  if whole.isEmpty then .error .malformed
  else
    let (decimals, rest) := fraction rest
    match power? rest, decimals with
    | none, [] =>
      match Numeral.read whole with
      | .ok n => .ok (.integer (if negative then -n else n), rest)
      | .error flaw => .error (.numeral flaw)
    | found, decimals =>
      let (power, rest) := found.getD (0, rest)
      let digits := Numeral.value (whole ++ decimals)
      .ok (.real (Binary64.ofDecimal negative digits (power - decimals.length)), rest)

/-- The words that stand for a value. -/
def wordValues : List (Text × Document) :=
  [("null".toList, .null), ("true".toList, .truth true), ("false".toList, .truth false),
    ("NaN".toList, .real .undefined), ("Infinity".toList, .real (.infinite false)),
    ("-Infinity".toList, .real (.infinite true))]

def word? (text : Text) : Option (Document × Text) :=
  wordValues.findSome? fun (word, value) => (Text.after? word text).map fun rest => (value, rest)

def scalar (text : Text) : Except Flaw (Document × Text) :=
  match word? text, text with
  | some found, _ => .ok found
  | none, '-' :: rest => number true rest
  | none, rest => number false rest

mutual

/-- The value that the text begins with, with at most so many `levels` of lists and objects. Every
two units of fuel use up a character. -/
def value (levels : Nat) : Nat → Text → Except Flaw (Document × Text)
  | 0, _ => .error .malformed
  | fuel + 1, text =>
    match skipBlanks text, levels with
    | '\x22' :: rest, _ => do
      let (s, rest) ← string rest
      return (.text s, rest)
    | '[' :: _, 0 | '\x7b' :: _, 0 => .error .tooDeep
    | '[' :: rest, levels + 1 =>
      match skipBlanks rest with
      | ']' :: rest => .ok (.list [], rest)
      | rest => do
        let (found, rest) ← items levels fuel rest
        return (.list found, rest)
    | '\x7b' :: rest, levels + 1 =>
      match skipBlanks rest with
      | '\x7d' :: rest => .ok (.object [], rest)
      | rest => do
        let (found, rest) ← members levels fuel [] rest
        return (.object found, rest)
    | text, _ => scalar text

def items (levels : Nat) : Nat → Text → Except Flaw (List Document × Text)
  | 0, _ => .error .malformed
  | fuel + 1, text => do
    let (first, rest) ← value levels fuel text
    match skipBlanks rest with
    | ',' :: rest => do
      let (others, rest) ← items levels fuel rest
      return (first :: others, rest)
    | ']' :: rest => return ([first], rest)
    | _ => .error .malformed

def members (levels : Nat) : Nat → Document.Fields → Text →
    Except Flaw (Document.Fields × Text)
  | 0, _, _ => .error .malformed
  | fuel + 1, before, text =>
    match skipBlanks text with
    | '\x22' :: rest => do
      let (key, rest) ← string rest
      match skipBlanks rest with
      | ':' :: rest => do
        let (found, rest) ← value levels fuel rest
        let fields := before.put key found
        match skipBlanks rest with
        | ',' :: rest => members levels fuel fields rest
        | '\x7d' :: rest => return (fields, rest)
        | _ => .error .malformed
      | _ => .error .malformed
    | _ => .error .malformed

end

/-- The document that a text is, with blanks around it. -/
def read (levels : Nat) (text : Text) : Except Flaw Document := do
  let (found, rest) ← value levels (2 * text.length + 2) text
  if (skipBlanks rest).isEmpty then return found else .error .malformed

def escaped (c : Char) : Text :=
  if c = '\x22' || c = '\x5c' then ['\x5c', c]
  else if c.toNat < 0x20 then '\x5c' :: 'u' :: Text.hex 4 c.toNat
  else [c]

def writtenString (s : String) : Text := '\x22' :: s.toList.flatMap escaped ++ ['\x22']

def writtenReal : Binary64 → Text
  | .undefined => "NaN".toList
  | .infinite negative => (if negative then "-Infinity" else "Infinity").toList
  | x => x.shown

mutual

def written : Document → Text
  | .null => "null".toList
  | .truth true => "true".toList
  | .truth false => "false".toList
  | .integer n => Numeral.written n
  | .real x => writtenReal x
  | .text s => writtenString s
  | .list items => '[' :: Text.joined [','] (writtenItems items) ++ [']']
  | .object fields => '\x7b' :: Text.joined [','] (writtenFields fields) ++ ['\x7d']

def writtenItems : List Document → List Text
  | [] => []
  | item :: rest => written item :: writtenItems rest

def writtenFields : List (String × Document) → List Text
  | [] => []
  | (key, value) :: rest => (writtenString key ++ ':' :: written value) :: writtenFields rest

end

end Tabletop.Json
