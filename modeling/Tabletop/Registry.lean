import Tabletop.Table

/-!
# Registries

The table registry (specification, 10.1 and 10.6). A registry opens tables, lists them in the order
of opening and closes them. Ids are the numbers of the attempts to open a table, so no two tables
have the same.
-/
namespace Tabletop

/-- What a table is opened with unless something else is asked for. -/
structure TableDefaults (σ : Type) where
  capacity : Int
  limits : Limits
  /-- The source of the table that an attempt opens. -/
  source : Nat → σ

/-- Every table ever opened, and the number of attempts to open one. -/
structure Registry (σ : Type) where
  defaults : TableDefaults σ
  tables : List (Table σ)
  attempts : Nat

namespace Registry

variable {σ : Type}

def start (defaults : TableDefaults σ) : Registry σ := ⟨defaults, [], 0⟩

/-- Twelve hexadecimal digits, or more if the number needs them. -/
def idOf (attempt : Nat) : Text := Text.hex 12 attempt

/-- An attempt with a capacity out of bounds opens nothing, but its number is used up. -/
def createUnder (id name : Text) (capacity : Option Int) (limits : Option Limits)
    (registry : Registry σ) : Except Fault (Table σ) × Registry σ :=
  let attempts := registry.attempts + 1
  match History.open? (capacity.getD registry.defaults.capacity) with
  | .error fault => (.error fault, { registry with attempts := attempts })
  | .ok history =>
    let table : Table σ :=
      { id := id
        name := name
        limits := limits.getD registry.defaults.limits
        history := history
        source := registry.defaults.source attempts
        listed := true }
    (.ok table, { registry with tables := registry.tables ++ [table], attempts := attempts })

def create (name : Text) (capacity : Option Int) (limits : Option Limits)
    (registry : Registry σ) : Except Fault (Table σ) × Registry σ :=
  registry.createUnder (idOf (registry.attempts + 1)) name capacity limits

/-- The open tables in the order of opening. -/
def all (registry : Registry σ) : List (Table σ) := registry.tables.filter Table.listed

def bears (id : Text) (table : Table σ) : Bool := table.listed && table.id == id

def find? (id : Text) (registry : Registry σ) : Option (Table σ) :=
  registry.tables.find? (bears id)

/-- The place of an open table among all tables ever opened. -/
def placeOf? (id : Text) (registry : Registry σ) : Option Nat :=
  registry.tables.findIdx? (bears id)

def closed (id : Text) (table : Table σ) : Table σ :=
  if bears id table then { table with listed := false } else table

/-- Closes the table and tells whether there was one. -/
def delete (id : Text) (registry : Registry σ) : Bool × Registry σ :=
  ((registry.find? id).isSome,
    { registry with tables := registry.tables.map (closed id) })

/-- The registry with another table at a place. -/
def put (place : Nat) (table : Table σ) (registry : Registry σ) : Registry σ :=
  { registry with tables := registry.tables.set place table }

end Registry

end Tabletop
