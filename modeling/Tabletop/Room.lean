import Tabletop.Channel
import Tabletop.Command
import Tabletop.Registry

/-!
# Rooms

The roll engine's entry points: a roll, a check, damage, a command (specification, 4.3 and 10.4),
over the tables of a registry and the channel that they share. A roll is remembered before it is
announced, and it is announced only if the roller wants it sent.
-/
namespace Tabletop

structure Room (σ : Type) where
  registry : Registry σ
  channel : Channel

namespace Room

variable {σ : Type} [DrawSource σ]

def start (defaults : TableDefaults σ) (channel : Channel) : Room σ :=
  ⟨Registry.start defaults, channel⟩

def table? (place : Nat) (room : Room σ) : Option (Table σ) := room.registry.tables[place]?

def withTable (place : Nat) (table : Table σ) (room : Room σ) : Room σ :=
  { room with registry := room.registry.put place table }

def publish (event : Event) (room : Room σ) : Room σ :=
  { room with channel := room.channel.publish event }

/-- A roll whose text cannot be written cannot be sent. -/
def announce (options : RollOptions) (roll : Roll) (room : Room σ) :
    Except Fault Roll × Room σ :=
  if options.send then
    match roll.line with
    | .ok _ => (.ok roll, room.publish (Event.ofRoll roll options))
    | .error fault => (.error fault, room)
  else (.ok roll, room)

def roll (place : Nat) (expression : Text) (options : RollOptions) (room : Room σ) :
    Except Fault Roll × Room σ :=
  match room.table? place with
  | none => (.error .noTable, room)
  | some table =>
    match table.roll expression with
    | (.ok roll, table) => (room.withTable place table).announce options roll
    | (.error fault, table) => (.error fault, room.withTable place table)

def fill (place : Nat) (order : Order) (options : RollOptions) (room : Room σ) :
    Except Fault Roll × Room σ :=
  room.roll place order.expression (options.under order)

def check (place : Nat) (check : Check) (options : RollOptions) (room : Room σ) :
    Except Fault Roll × Room σ :=
  match check.order with
  | .ok order => room.fill place order options
  | .error fault => (.error fault, room)

def damage (place : Nat) (expression kind : Text) (options : RollOptions) (room : Room σ) :
    Except Fault Roll × Room σ :=
  room.fill place (.damage expression kind) options

/-- A command that orders nothing is answered with its usage. -/
def obey (place : Nat) (command : Command) (options : RollOptions) (room : Room σ) :
    Except Fault Reply × Room σ :=
  match command.order? with
  | none => (.ok (.usage command.name), room)
  | some ⟨order, subject⟩ =>
    let (found, room) := room.fill place order options
    (found.bind (Reply.ofRoll subject), room)

def command (place : Nat) (text : Text) (options : RollOptions) (room : Room σ) :
    Except Fault Reply × Room σ :=
  match Command.ofText text with
  | .ok command => room.obey place command options
  | .error fault => (.error fault, room)

/-- Forgets what the table rolled. -/
def clear (place : Nat) (room : Room σ) : Room σ :=
  match room.table? place with
  | none => room
  | some table => room.withTable place { table with history := table.history.clear }

end Room

end Tabletop
