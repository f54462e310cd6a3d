import Tabletop.Form
import Tabletop.Text.Blank

/-!
# Scalar values of forms

Numbers, truth values and text. Numbers and truth values may also be written as text. The text of a
whole number is either plain digits, or it is tidied first: zeros at the front, zeros after a point
and single underscores are taken away.
-/
namespace Tabletop.Form

/-- Plain digits after an optional minus; a zero stands alone. There may be as many digits as in a
numeral, whatever follows them. -/
def plainWhole (text : Text) : Except Flaw Int :=
  let (negative, size) := match text with
    | '-' :: size => (true, size)
    | size => (false, size)
  let (digits, rest) := Numeral.leading size
  if Numeral.maxDigits < digits.length then .error .hugeWhole
  else if digits.isEmpty || !rest.isEmpty then .error .unreadableWhole
  else .ok (if negative then -(Numeral.value digits : Int) else Numeral.value digits)

/-- What is left after zeros and underscores, if it begins with a digit or a minus. A point keeps
the character before it, and so does the end. -/
def afterZeros? (last : Char) : Text → Option Text
  | [] => some [last]
  | c :: rest =>
    if c = '0' || c = '_' then afterZeros? c rest
    else if c = '.' then some (last :: c :: rest)
    else if c.isDigit || c = '-' then some (c :: rest)
    else none

/-- The text without zeros at its front. They may be mixed with underscores. -/
def withoutFirstZeros? : Text → Option Text
  | '0' :: rest => afterZeros? '0' rest
  | c :: rest => if c.isDigit || c = '-' then some (c :: rest) else none
  | [] => none

/-- The text before a point that zeros follow, and nothing else, or all of it. -/
def withoutZeroFraction (text : Text) : Text :=
  let fraction := (text.dropWhile (· != '.')).drop 1
  if !fraction.isEmpty && fraction.all (· == '0') then text.takeWhile (· != '.') else text

/-- The text without underscores, if each is single and none is first or last. -/
def withoutUnderscores? (text : Text) : Option Text :=
  let lonely := (text.zip (text.drop 1)).all fun pair => !(pair.1 == '_' && pair.2 == '_')
  if lonely && text.head? != some '_' && text.getLast? != some '_' then
    some (text.filter (· != '_'))
  else none

def tidySize? (size : Text) : Option Text :=
  (withoutFirstZeros? size).map fun size =>
    (withoutUnderscores? (withoutZeroFraction size)).getD (withoutZeroFraction size)

/-- A number as it is loosely written, in plain digits if it is one. -/
def tidied? (text : Text) : Option Text :=
  match Text.trimmed Text.isSpace text with
  | '+' :: '-' :: _ => none
  | '+' :: size => tidySize? size
  | '-' :: size => (tidySize? size).map ('-' :: ·)
  | size => tidySize? size

/-- A text that is too long as it stands is not tidied. -/
def wholeOfText (text : Text) : Except Flaw Int :=
  match plainWhole text, tidied? text with
  | .error .unreadableWhole, some tidy => plainWhole tidy
  | found, _ => found

/-- A whole number that a signed word of 64 bits can hold. -/
def isWord (n : Int) : Bool := decide (-9223372036854775808 ≤ n ∧ n < 9223372036854775808)

/-- The whole number that a real stands for. Both ends of the words are beyond it. -/
def wholeOfReal (x : Binary64) : Except Flaw Int :=
  match x.whole? with
  | some n => if n.natAbs < 9223372036854775808 then .ok n else .error .hugeWhole
  | none => .error (if x.isFinite then .fractional else .notFinite)

/-- An integer may have any size. -/
def wholeOf : Document → Except Flaw Int
  | .integer n => .ok n
  | .truth b => .ok (if b then 1 else 0)
  | .real x => wholeOfReal x
  | .text s => wholeOfText s.toList
  | _ => .error .notWhole

def whole : Reader Int := judging wholeOf

def between (least most : Option Int) (value : Int) : Except Flaw Int :=
  if most.any (· < value) then .error (.tooLarge (most.getD 0))
  else if least.any (value < ·) then .error (.tooSmall (least.getD 0))
  else .ok value

/-- A whole number within bounds. -/
def wholeBetween (least most : Option Int) : Reader Int :=
  judging fun value => wholeOf value >>= between least most

/-- A whole number from one on. -/
def positive : Reader Nat := fun value => (wholeBetween (some 1) none value).map Int.toNat

def falseWords : List String := ["0", "off", "f", "false", "n", "no"]
def trueWords : List String := ["1", "on", "t", "true", "y", "yes"]

/-- A number beyond the words is not taken for a truth value at all. -/
def truthOfWhole (n : Int) : Except Flaw Bool :=
  if n = 0 then .ok false
  else if n = 1 then .ok true
  else .error (if isWord n then .unreadableTruth else .notTruth)

def truthOfText (text : Text) : Except Flaw Bool :=
  let word := String.ofList (text.map Char.toLower)
  if falseWords.contains word then .ok false
  else if trueWords.contains word then .ok true
  else .error .unreadableTruth

def truth : Reader Bool := judging fun
  | .truth b => .ok b
  | .integer n => truthOfWhole n
  | .real x =>
    match wholeOfReal x with
    | .ok n => truthOfWhole n
    | .error _ => .error .notTruth
  | .text s => truthOfText s.toList
  | _ => .error .notTruth

def textOf : Document → Except Flaw String
  | .text s => .ok s
  | _ => .error .notText

def text : Reader String := judging textOf

/-- Text of a length within bounds. -/
def textBetween (least most : Nat) : Reader String := judging fun value => do
  let s ← textOf value
  if most < s.length then .error (.tooLong most)
  else if s.length < least then .error (.tooShort least)
  else .ok s

def unsigned : Text → Bool × Text
  | '-' :: rest => (true, rest)
  | '+' :: rest => (false, rest)
  | text => (false, text)

/-- Digits, a point and digits; not both sides of the point may be empty. -/
def decimal? (digits : Text) : Option (Nat × Int) :=
  let whole := digits.takeWhile Char.isDigit
  let rest := digits.dropWhile Char.isDigit
  let decimals := rest.drop 1
  if (rest.isEmpty || rest.head? == some '.') && decimals.all Char.isDigit &&
      !(whole.isEmpty && decimals.isEmpty) then
    some (Numeral.value (whole ++ decimals), -(decimals.length : Int))
  else none

/-- A power of ten after `e`, none being zero. -/
def powerOfTen? : Text → Option Int
  | [] => some 0
  | _ :: rest =>
    let (negative, digits) := unsigned rest
    if digits.isEmpty || !digits.all Char.isDigit then none
    else some (if negative then -(Numeral.value digits : Int) else Numeral.value digits)

def isPowerMark (c : Char) : Bool := c == 'e' || c == 'E'

def plainReal? (text : Text) : Option Binary64 :=
  let (negative, size) := unsigned text
  let word := String.ofList (size.map Char.toLower)
  if word == "inf" || word == "infinity" then some (.infinite negative)
  else if word == "nan" then some .undefined
  else do
    let (digits, place) ← decimal? (size.takeWhile fun c => !isPowerMark c)
    let power ← powerOfTen? (size.dropWhile fun c => !isPowerMark c)
    return Binary64.ofDecimal negative digits (place + power)

/-- A text is trimmed or rid of underscores, never both. -/
def realOfText (text : Text) : Except Flaw Binary64 :=
  let found := (plainReal? (Text.trimmed Text.isSpace text)).or
    ((withoutUnderscores? text).bind plainReal?)
  match found with
  | some x => .ok x
  | none => .error .unreadableReal

end Tabletop.Form
