import Tabletop.Order
import Tabletop.Text.Blank
import Tabletop.Text.DecimalDigit

/-!
# Slash commands

The slash-command front end (specification, 10.4). It reads chat text that begins with a slash: the
name of a command and its words, all in lower case. A command orders a roll, or shows how it is used
where it has nothing to roll.
-/
namespace Tabletop

inductive CommandName where
  | roll | damage | heal
  deriving DecidableEq, Repr

def CommandName.usage : CommandName → Text
  | .roll => "/roll 3d6+2 [advantage|disadvantage]".toList
  | .damage => "/damage 2d6+4 [fire|ice|lightning]".toList
  | .heal => "/heal 2d4+2".toList

/-- Every name and the letter that stands for it. -/
def CommandName.ofText? (name : Text) : Option CommandName :=
  [("roll", .roll), ("r", .roll), ("damage", .damage), ("d", .damage), ("heal", .heal),
    ("h", CommandName.heal)].lookup (String.ofList name)

structure Command where
  name : CommandName
  words : List Text
  deriving DecidableEq, Repr

/-- What a command rolls, and what its reply says was rolled. -/
structure CommandOrder where
  order : Order
  subject : Text
  deriving DecidableEq, Repr

namespace Command

def isCommand (text : Text) : Bool := (Text.strip text).head? == some '/'

/-- A name without an entry is refused in lower case. -/
def ofContent (content : Text) : Except Fault Command :=
  let words := Text.words content
  let name := Text.lower (words.headD [])
  match CommandName.ofText? name with
  | some name => .ok ⟨name, words.tail.map Text.lower⟩
  | none => .error (.unknownCommand name)

def ofText (text : Text) : Except Fault Command :=
  match Text.strip text with
  | '/' :: content => ofContent content
  | content => .error (.notACommand text content)

def advantageWord : Text := "advantage".toList
def disadvantageWord : Text := "disadvantage".toList

def isFlag (word : Text) : Bool := word == advantageWord || word == disadvantageWord

def edge (words : List Text) : Edge :=
  Edge.ofFlags (words.contains advantageWord) (words.contains disadvantageWord)

def isDigit (c : Char) : Bool := (Text.digitValue? c).isSome

/-- The two letters of a keep or drop suffix. -/
def startsKeep : Text → Bool
  | a :: b :: _ => (a == 'd' || a == 'k') && (b == 'h' || b == 'l')
  | _ => false

/-- The text after a lone twenty-sided die that `text` begins with: no digit stands before it, and
neither a digit nor a keep suffix after it. -/
def afterLoneDie? (before : Option Char) (text : Text) : Option Text :=
  if before.any isDigit then none
  else do
    let rest ← Text.after? ['d', '2', '0'] ((Text.after? ['1'] text).getD text)
    if rest.head?.any isDigit || startsKeep rest then none else some rest

/-- The text with `pair` in place of its first lone twenty-sided die. -/
def pairedFrom (pair : Text) (before : Option Char) : Text → Text
  | [] => []
  | c :: text =>
    match afterLoneDie? before (c :: text) with
    | some rest => pair ++ rest
    | none => c :: pairedFrom pair (some c) text

/-- With an edge the first lone twenty-sided die becomes two. -/
def paired (edge : Edge) (expression : Text) : Text :=
  if edge = .none then expression else pairedFrom edge.dice none expression

def rollOrder? (words : List Text) : Option CommandOrder :=
  let expression := Text.joined [' '] (words.filter fun word => !isFlag word)
  if expression.isEmpty then none
  else
    let expression := paired (edge words) expression
    some ⟨.plain expression, expression⟩

/-- The second word is the kind of damage. Words after it are not looked at. -/
def damageOrder? : List Text → Option CommandOrder
  | [] => none
  | expression :: rest =>
    let kind := rest.headD "physical".toList
    some ⟨.damage expression kind, expression ++ ' ' :: kind ++ " damage".toList⟩

/-- Words after the first are not looked at. -/
def healOrder? : List Text → Option CommandOrder
  | [] => none
  | expression :: _ =>
    some ⟨⟨expression, some "Healing".toList⟩, expression ++ " healing".toList⟩

/-- Nothing is ordered by a command without an expression. -/
def order? (command : Command) : Option CommandOrder :=
  match command.name with
  | .roll => rollOrder? command.words
  | .damage => damageOrder? command.words
  | .heal => healOrder? command.words

end Command

/-- The text that answers a command, and the roll it is about. -/
structure Reply where
  text : Text
  roll : Option Roll
  deriving DecidableEq, Repr

namespace Reply

def usage (name : CommandName) : Reply := ⟨name.usage, none⟩

/-- The total must have a numeral. -/
def ofRoll (subject : Text) (roll : Roll) : Except Fault Reply :=
  if Numeral.fits roll.total then
    .ok ⟨"Rolled ".toList ++ subject ++ ": **".toList ++ Numeral.written roll.total ++
      "**".toList, some roll⟩
  else .error (.numeral .tooLongToWrite)

end Reply

end Tabletop
