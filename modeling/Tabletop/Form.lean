import Tabletop.Document

/-!
# Forms

The validation of the data model (specification, 10.2): reading a document against the shape it
should have. Every fault of a form is reported, in the order of its fields and depth first, with the
value at fault and the path to it. A field may be written in either of two spellings.
-/
namespace Tabletop

namespace Form

/-- What is wrong with one value. -/
inductive Flaw where
  | missing
  | notWhole | unreadableWhole | hugeWhole | fractional | notFinite
  | notTruth | unreadableTruth
  | notText | tooShort (least : Nat) | tooLong (most : Nat)
  | notObject | notRecord | notList | notBody
  | notInEnumeration | notTheLiteral
  | tooSmall (least : Int) | tooLarge (most : Int)
  | unreadableReal
  | notJson
  deriving DecidableEq, Repr

inductive Step where
  | key (name : String)
  | index (place : Nat)
  deriving DecidableEq, Repr

/-- The value at fault, for a missing field the object without it. -/
structure Complaint where
  path : List Step
  flaw : Flaw
  value : Document
  deriving Repr

/-- A value that passed, or everything that is wrong with it. -/
inductive Checked (α : Type) where
  | good (value : α)
  | bad (complaints : List Complaint)
  deriving Repr

namespace Checked

variable {α β : Type}

def map (f : α → β) : Checked α → Checked β
  | good a => good (f a)
  | bad complaints => bad complaints

/-- Both parts are checked, and the complaints about both are kept. -/
def app : Checked (α → β) → Checked α → Checked β
  | good f, good a => good (f a)
  | good _, bad complaints => bad complaints
  | bad complaints, good _ => bad complaints
  | bad first, bad second => bad (first ++ second)

instance : Functor Checked := ⟨map, fun a => map fun _ => a⟩

instance : Applicative Checked where
  pure := good
  seq f x := app f (x ())

def refuse (value : Document) (flaw : Flaw) : Checked α := bad [⟨[], flaw, value⟩]

/-- A value was judged as a whole. -/
def ofJudgement (value : Document) : Except Flaw α → Checked α
  | .ok a => good a
  | .error flaw => refuse value flaw

/-- The complaints are about a part of the value. -/
def below (step : Step) : Checked α → Checked α
  | good a => good a
  | bad complaints => bad (complaints.map fun c => { c with path := step :: c.path })

end Checked

/-- The two spellings of a field's name. -/
structure FieldName where
  camel : String
  snake : String
  deriving DecidableEq, Repr

def FieldName.word (name : String) : FieldName := ⟨name, name⟩

/-- Which of the two spellings is written. -/
inductive Spelling where
  | camel | snake
  deriving DecidableEq, Repr

def FieldName.spelled (name : FieldName) : Spelling → String
  | .camel => name.camel
  | .snake => name.snake

abbrev Reader (α : Type) := Document → Checked α

def judging {α : Type} (judge : Document → Except Flaw α) : Reader α := fun value =>
  .ofJudgement value (judge value)

/-- The camel spelling wins, and complaints use the spelling found if just one is. -/
def field {α : Type} (fields : Document.Fields) (name : FieldName) (read : Reader α)
    (absent : Option α) : Checked α :=
  match fields.lookup name.camel, fields.lookup name.snake, absent with
  | some value, _, _ => (read value).below (.key name.camel)
  | none, some value, _ => (read value).below (.key name.snake)
  | none, none, some a => .good a
  | none, none, none => (Checked.refuse (.object fields) .missing).below (.key name.camel)

def required {α : Type} (fields : Document.Fields) (name : FieldName) (read : Reader α) :
    Checked α := field fields name read none

def optional {α : Type} (fields : Document.Fields) (name : FieldName) (read : Reader α)
    (absent : α) : Checked α := field fields name read (some absent)

def nullable {α : Type} (read : Reader α) : Reader (Option α)
  | .null => .good none
  | value => (read value).map some

def object : Reader Document.Fields
  | .object fields => .good fields
  | value => .refuse value .notObject

/-- A part of a form with fields of its own. -/
def record {α : Type} (read : Document.Fields → Checked α) : Reader α
  | .object fields => read fields
  | value => .refuse value .notRecord

def itemsFrom {α : Type} (read : Reader α) (place : Nat) : List Document → Checked (List α)
  | [] => .good []
  | item :: rest =>
    List.cons <$> (read item).below (.index place) <*> itemsFrom read (place + 1) rest

def listOf {α : Type} (read : Reader α) : Reader (List α)
  | .list items => itemsFrom read 0 items
  | value => .refuse value .notList

namespace Flaw

def code : Flaw → String
  | missing => "missing"
  | notWhole => "int_type"
  | unreadableWhole => "int_parsing"
  | hugeWhole => "int_parsing_size"
  | fractional => "int_from_float"
  | notFinite => "finite_number"
  | notTruth => "bool_type"
  | unreadableTruth => "bool_parsing"
  | notText => "string_type"
  | tooShort _ => "string_too_short"
  | tooLong _ => "string_too_long"
  | notObject => "dict_type"
  | notRecord => "model_type"
  | notList => "tuple_type"
  | notBody => "model_attributes_type"
  | notInEnumeration => "enum"
  | notTheLiteral => "literal_error"
  | tooSmall _ => "greater_than_equal"
  | tooLarge _ => "less_than_equal"
  | unreadableReal => "float_parsing"
  | notJson => "json_invalid"

def characters (n : Nat) : String :=
  toString n ++ if n = 1 then " character" else " characters"

def number (n : Int) : String := String.ofList (Numeral.written n)

def message : Flaw → String
  | missing => "Field required"
  | notWhole => "Input should be a valid integer"
  | unreadableWhole => "Input should be a valid integer, unable to parse string as an integer"
  | hugeWhole => "Unable to parse input string as an integer, exceeded maximum size"
  | fractional => "Input should be a valid integer, got a number with a fractional part"
  | notFinite => "Input should be a finite number"
  | notTruth => "Input should be a valid boolean"
  | unreadableTruth => "Input should be a valid boolean, unable to interpret input"
  | notText => "Input should be a valid string"
  | tooShort least => "String should have at least " ++ characters least
  | tooLong most => "String should have at most " ++ characters most
  | notObject => "Input should be a valid dictionary"
  | notRecord => "Input should be an object of the model"
  | notList => "Input should be a valid tuple"
  | notBody => "Input should be a valid dictionary or object to extract fields from"
  | notInEnumeration => "Input should be one of the listed values"
  | notTheLiteral => "Input should be the expected value"
  | tooSmall least => "Input should be greater than or equal to " ++ number least
  | tooLarge most => "Input should be less than or equal to " ++ number most
  | unreadableReal => "Input should be a valid number, unable to parse string as a number"
  | notJson => "JSON decode error"

end Flaw

end Form

end Tabletop
