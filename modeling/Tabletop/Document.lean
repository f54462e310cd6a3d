import Tabletop.Binary64
import Tabletop.Numeral
import Tabletop.Text.Quoted

/-!
# Documents

The dynamic values that come in from outside: request bodies, speakers, what a draw source hands
back. An object keeps its fields in the order in which they were first written.
-/
namespace Tabletop

inductive Document where
  | null
  | truth (value : Bool)
  | integer (value : Int)
  | real (value : Binary64)
  | text (value : String)
  | list (items : List Document)
  | object (fields : List (String × Document))
  deriving Repr, Inhabited

namespace Document

abbrev Fields := List (String × Document)

/-- The fields with one more; a field of that name keeps its place and takes the new value. -/
def Fields.put (key : String) (value : Document) : Fields → Fields
  | [] => [(key, value)]
  | (name, old) :: rest =>
    if name = key then (name, value) :: rest else (name, old) :: put key value rest

mutual

/-- The text of a value inside a message: text is quoted, lists and objects are bracketed. -/
def quoted : Document → Text
  | .null => "None".toList
  | .truth true => "True".toList
  | .truth false => "False".toList
  | .integer n => Numeral.written n
  | .real x => x.shown
  | .text s => Text.quoted s.toList
  | .list items => '[' :: Text.joined [',', ' '] (quotedItems items) ++ [']']
  | .object fields => '\x7b' :: Text.joined [',', ' '] (quotedFields fields) ++ ['\x7d']

def quotedItems : List Document → List Text
  | [] => []
  | item :: rest => item.quoted :: quotedItems rest

def quotedFields : List (String × Document) → List Text
  | [] => []
  | (key, value) :: rest =>
    (Text.quoted key.toList ++ [':', ' '] ++ value.quoted) :: quotedFields rest

end

mutual

/-- Every integer in the value has a numeral. -/
def isWritable : Document → Bool
  | .integer n => Numeral.fits n
  | .list items => itemsWritable items
  | .object fields => fieldsWritable fields
  | _ => true

def itemsWritable : List Document → Bool
  | [] => true
  | item :: rest => item.isWritable && itemsWritable rest

def fieldsWritable : List (String × Document) → Bool
  | [] => true
  | (_, value) :: rest => value.isWritable && fieldsWritable rest

end

mutual

/-- No real in the value is infinite or undefined. -/
def isFinite : Document → Bool
  | .real x => x.isFinite
  | .list items => itemsFinite items
  | .object fields => fieldsFinite fields
  | _ => true

def itemsFinite : List Document → Bool
  | [] => true
  | item :: rest => item.isFinite && itemsFinite rest

def fieldsFinite : List (String × Document) → Bool
  | [] => true
  | (_, value) :: rest => value.isFinite && fieldsFinite rest

end

mutual

/-- The value with null for every real that is infinite or undefined. -/
def finite : Document → Document
  | .real x => if x.isFinite then .real x else .null
  | .list items => .list (finiteItems items)
  | .object fields => .object (finiteFields fields)
  | value => value

def finiteItems : List Document → List Document
  | [] => []
  | item :: rest => item.finite :: finiteItems rest

def finiteFields : List (String × Document) → List (String × Document)
  | [] => []
  | (key, value) :: rest => (key, value.finite) :: finiteFields rest

end

mutual

/-- The number of values that stand inside one another, the value itself included. -/
def depth : Document → Nat
  | .list items => itemsDepth items + 1
  | .object fields => fieldsDepth fields + 1
  | _ => 1

def itemsDepth : List Document → Nat
  | [] => 0
  | item :: rest => max item.depth (itemsDepth rest)

def fieldsDepth : List (String × Document) → Nat
  | [] => 0
  | (_, value) :: rest => max value.depth (fieldsDepth rest)

end

/-- The text of a value on its own: text stands for itself. -/
def shown : Document → Text
  | .text s => s.toList
  | value => value.quoted

end Document

end Tabletop
