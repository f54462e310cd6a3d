import Tabletop.Text.Hexadecimal

/-!
# Paths

The routes of the HTTP surface (specification, 10.6): paths with percent escapes, and what of the
service they name. An escaped slash separates like a written one. A byte that is not ASCII is in no
path that names anything. A target is a path as it is asked for, perhaps with a query.
-/
namespace Tabletop

namespace Path

def charOfByte (byte : Nat) : Char := if byte < 0x80 then Char.ofNat byte else Char.ofNat 0xfffd

/-- The path with its escapes resolved. A percent sign that begins no escape stands for itself. -/
def unescaped : Text → Text
  | '%' :: high :: low :: rest =>
    match Text.hexNumber? [high, low] with
    | some byte => charOfByte byte :: unescaped rest
    | none => '%' :: unescaped (high :: low :: rest)
  | c :: rest => c :: unescaped rest
  | [] => []

/-- The parts between separators. -/
def partsAt (separator : Char) : Text → List Text
  | [] => [[]]
  | c :: rest =>
    if c = separator then [] :: partsAt separator rest
    else
      match partsAt separator rest with
      | [] => [[c]]
      | part :: others => (c :: part) :: others

/-- The parts between slashes. -/
def parts (path : Text) : List Text := partsAt '/' path

/-- The parts after one more: a dot stays, and two dots go back by one part. -/
def step (before : List Text) (part : Text) : List Text :=
  if part = ['.'] then before
  else if part = ['.', '.'] then (if before = [[]] then before else before.dropLast)
  else before ++ [part]

/-- The path with its steps of dots taken. -/
def resolved (path : Text) : Text := Text.joined ['/'] ((parts path).foldl step [])

def withoutLastSlashes (path : Text) : Text := (path.reverse.dropWhile (· == '/')).reverse

end Path

/-- What a path names. -/
inductive Resource where
  | tables
  | table (id : Text)
  | rolls (id : Text)
  | latest (id : Text)
  | latestText (id : Text)
  | checks (id : Text)
  | commands (id : Text)
  deriving DecidableEq, Repr

namespace Resource

def ofTablePath? (id : Text) : List String → Option Resource
  | [] => some (.table id)
  | ["rolls"] => some (.rolls id)
  | ["rolls", "latest"] => some (.latest id)
  | ["rolls", "latest", "text"] => some (.latestText id)
  | ["checks"] => some (.checks id)
  | ["commands"] => some (.commands id)
  | _ => none

/-- A table has an id that is not empty. -/
def ofWholePath? (path : Text) : Option Resource :=
  match (Path.parts path).map String.ofList with
  | ["", "tables"] => some .tables
  | "" :: "tables" :: id :: rest => if id.isEmpty then none else ofTablePath? id.toList rest
  | _ => none

/-- A path without escapes. A line break at its end is overlooked where the path would name nothing
with it. -/
def ofPath? (path : Text) : Option Resource :=
  (ofWholePath? path).or
    (if path.getLast? = some '\n' then ofWholePath? path.dropLast else none)

/-- Without its last slashes the path would name something. -/
def isMisspelled (path : Text) : Bool :=
  path.getLast? == some '/' && (ofPath? (Path.withoutLastSlashes path)).isSome

end Resource

abbrev Query := List (String × String)

/-- A path, still with its escapes, and the query that came with it. -/
structure Target where
  path : Text
  query : Query
  deriving DecidableEq, Repr

namespace Query

/-- Text of a query, where a plus sign stands for a space. -/
def unescaped (text : Text) : String :=
  String.ofList (Path.unescaped (text.map fun c => if c = '+' then ' ' else c))

/-- A name and its value. A name on its own has the empty value. -/
def entry (part : Text) : String × String :=
  (unescaped (part.takeWhile (· != '=')), unescaped ((part.dropWhile (· != '=')).drop 1))

def ofText (text : Text) : Query :=
  ((Path.partsAt '&' text).filter fun part => !part.isEmpty).map entry

end Query

namespace Target

/-- The path after the name of a host, if it begins with one. -/
def withoutHost : Text → Text
  | '/' :: '/' :: rest => rest.dropWhile (· != '/')
  | path => path

/-- A path begins with one slash. What follows a hash sign is no part of the target. -/
def ofText (text : Text) : Target :=
  let text := text.takeWhile (· != '#')
  let path := (withoutHost (text.takeWhile (· != '?'))).dropWhile (· == '/')
  ⟨Path.resolved ('/' :: path), Query.ofText ((text.dropWhile (· != '?')).drop 1)⟩

end Target

end Tabletop
