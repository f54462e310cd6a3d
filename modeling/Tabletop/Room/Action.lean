import Tabletop.Room

/-!
# Actions

Everything that can be asked of a room, and its answers. `Room.perform` is one step of a session
and `Room.play` a session.
-/
namespace Tabletop

inductive Action where
  | create (name : Text) (capacity : Option Int) (limits : Option Limits)
  | find (id : Text)
  | all
  | delete (id : Text)
  | join (sink : Sink)
  | subscribe (sink : Nat)
  | unsubscribe (sink : Nat)
  /-- Takes what every sink holds. -/
  | drain
  /-- Takes what one sink holds. -/
  | fetch (sink : Nat)
  | roll (table : Nat) (expression : Text) (options : RollOptions)
  | check (table : Nat) (check : Check) (options : RollOptions)
  | damage (table : Nat) (expression kind : Text) (options : RollOptions)
  | command (table : Nat) (text : Text) (options : RollOptions)
  | recent (table : Nat) (limit : Int)
  | last (table : Nat)
  | clear (table : Nat)
  deriving Repr

/-- What a table tells about itself. -/
structure TableSummary where
  id : Text
  name : Text
  capacity : Nat
  size : Nat
  deriving DecidableEq, Repr

def Table.summary {σ : Type} (table : Table σ) : TableSummary :=
  ⟨table.id, table.name, table.history.capacity, table.history.size⟩

inductive Answer where
  | created (table : TableSummary)
  | found (table : Option TableSummary)
  | tables (list : List TableSummary)
  | deleted (wasListed : Bool)
  | subscribed (count : Nat)
  | drained (events : List (List Event))
  | rolled (roll : Roll)
  | replied (reply : Reply)
  | recalled (rolls : List Roll)
  | latest (roll : Option Roll)
  | cleared
  deriving Repr

namespace Room

variable {σ : Type} [DrawSource σ]

def create (name : Text) (capacity : Option Int) (limits : Option Limits) (room : Room σ) :
    Except Fault TableSummary × Room σ :=
  let (found, registry) := room.registry.create name capacity limits
  (found.map Table.summary, { room with registry := registry })

def delete (id : Text) (room : Room σ) : Bool × Room σ :=
  let (wasListed, registry) := room.registry.delete id
  (wasListed, { room with registry := registry })

/-- The number of subscriptions after a change of them. -/
def withChannel (channel : Channel) (room : Room σ) : Except Fault Answer × Room σ :=
  (.ok (.subscribed channel.subscribers.length), { room with channel := channel })

/-- An answer read off a table. -/
def asking (place : Nat) (read : Table σ → Answer) (room : Room σ) : Except Fault Answer :=
  match room.table? place with
  | none => .error .noTable
  | some table => .ok (read table)

def perform (action : Action) (room : Room σ) : Except Fault Answer × Room σ :=
  match action with
  | .create name capacity limits =>
    let (found, room) := room.create name capacity limits
    (found.map .created, room)
  | .find id => (.ok (.found ((room.registry.find? id).map Table.summary)), room)
  | .all => (.ok (.tables (room.registry.all.map Table.summary)), room)
  | .delete id =>
    let (wasListed, room) := room.delete id
    (.ok (.deleted wasListed), room)
  | .join sink => room.withChannel (room.channel.join sink)
  | .subscribe sink => room.withChannel (room.channel.subscribe sink)
  | .unsubscribe sink => room.withChannel (room.channel.unsubscribe sink)
  | .drain => (.ok (.drained room.channel.taken),
    { room with channel := room.channel.emptied })
  | .fetch sink => (.ok (.drained [room.channel.takenAt sink]),
    { room with channel := room.channel.emptiedAt sink })
  | .roll table expression options =>
    let (found, room) := room.roll table expression options
    (found.map .rolled, room)
  | .check table check options =>
    let (found, room) := room.check table check options
    (found.map .rolled, room)
  | .damage table expression kind options =>
    let (found, room) := room.damage table expression kind options
    (found.map .rolled, room)
  | .command table text options =>
    let (found, room) := room.command table text options
    (found.map .replied, room)
  | .recent table limit =>
    (room.asking table fun table => .recalled (table.history.recent limit), room)
  | .last table => (room.asking table fun table => .latest table.history.last?, room)
  | .clear table => (room.asking table fun _ => .cleared, room.clear table)

/-- The answers to the actions in turn. -/
def play : List Action → Room σ → List (Except Fault Answer) × Room σ
  | [], room => ([], room)
  | action :: rest, room =>
    let (answer, room) := room.perform action
    let (answers, room) := play rest room
    (answer :: answers, room)

end Room

end Tabletop
