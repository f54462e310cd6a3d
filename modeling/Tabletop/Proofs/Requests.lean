import Tabletop.Proofs.Rolled
import Tabletop.Room.Action

/-!
# Requests for a roll

The four ways to ask a table for a roll come down to one: an order is filled, or there is none.
What a request does to a room is a change of the source of one table, then a push onto the history
of that table, then one publication; each lemma here says how far a request gets.
-/
namespace Tabletop

inductive RollRequest where
  | roll (expression : Text)
  | check (check : Check)
  | damage (expression kind : Text)
  | command (text : Text)
  deriving Repr

namespace RollRequest

def action (place : Nat) (options : RollOptions) : RollRequest → Action
  | .roll expression => .roll place expression options
  | .check given => .check place given options
  | .damage expression kind => .damage place expression kind options
  | .command text => .command place text options

/-- What is to be rolled, if there is anything to roll. -/
def order? : RollRequest → Except Fault (Option Order)
  | .roll expression => .ok (some (.plain expression))
  | .check given => given.order.map some
  | .damage expression kind => .ok (some (.damage expression kind))
  | .command text => (Command.ofText text).map fun command =>
    command.order?.map CommandOrder.order

def isCommand : RollRequest → Bool
  | .command _ => true
  | _ => false

end RollRequest

/-- The roll that an answer is about. -/
def Answer.roll? : Answer → Option Roll
  | .rolled roll => some roll
  | .replied reply => reply.roll
  | _ => none

namespace Room

variable {σ : Type}

/-- The room after draws from the source of a table. -/
def withSource (place : Nat) (source : σ) (room : Room σ) : Room σ :=
  match room.table? place with
  | none => room
  | some table => room.withTable place { table with source := source }

/-- The room after a roll is remembered at a table. -/
def withRoll (place : Nat) (roll : Roll) (room : Room σ) : Room σ :=
  match room.table? place with
  | none => room
  | some table => room.withTable place { table with history := table.history.push roll }

section Tables

variable {place : Nat} {room : Room σ} {table : Table σ}

theorem table?_withTable (found : room.table? place = some table) (other : Table σ) :
    (room.withTable place other).table? place = some other := by
  obtain ⟨inside, _⟩ := List.getElem?_eq_some_iff.mp found
  exact List.getElem?_set_self inside

theorem withTable_withTable (place : Nat) (first second : Table σ) (room : Room σ) :
    (room.withTable place first).withTable place second = room.withTable place second := by
  simp only [withTable, Registry.put, List.set_set]

theorem withTable_self (found : room.table? place = some table) :
    room.withTable place table = room := by
  obtain ⟨inside, here⟩ := List.getElem?_eq_some_iff.mp found
  subst here
  simp only [withTable, Registry.put, List.set_getElem_self]

theorem withSource_eq (found : room.table? place = some table) (source : σ) :
    room.withSource place source = room.withTable place { table with source := source } := by
  rw [withSource, found]

theorem withRoll_withSource (found : room.table? place = some table) (source : σ) (roll : Roll) :
    (room.withSource place source).withRoll place roll =
      room.withTable place
        { table with source := source, history := table.history.push roll } := by
  rw [withSource_eq found, withRoll, table?_withTable found]
  exact withTable_withTable place _ _ room

/-- A source may stay as it is. -/
theorem exists_withSource (place : Nat) (room : Room σ) :
    ∃ source, room.withSource place source = room := by
  cases found : room.table? place with
  | none => exact ⟨room.registry.defaults.source 0, by rw [withSource, found]⟩
  | some table =>
    refine ⟨table.source, ?_⟩
    rw [withSource_eq found]
    exact withTable_self found

end Tables

variable [DrawSource σ] {place : Nat} {room : Room σ} {table : Table σ} {order : Order}
  {options : RollOptions} {request : RollRequest}

/-- What comes of the order at a table, before anything is remembered. -/
def outcome (table : Table σ) (order : Order) : Except Fault Roll × σ :=
  (Roll.ofExpression table.limits order.expression).run.run table.source

theorem fill_plain (place : Nat) (expression : Text) (options : RollOptions) (room : Room σ) :
    room.fill place (.plain expression) options = room.roll place expression options := rfl

theorem fill_missing (missing : room.table? place = none) :
    room.fill place order options = (.error .noTable, room) := by
  rw [fill, roll, missing]

theorem fill_fault (found : room.table? place = some table) {fault : Fault} {source : σ}
    (failed : outcome table order = (.error fault, source)) :
    room.fill place order options = (.error fault, room.withSource place source) := by
  rw [outcome] at failed
  rw [fill, roll, found, withSource_eq found]
  simp only [Table.roll, failed]

theorem fill_roll (found : room.table? place = some table) {rolled : Roll} {source : σ}
    (succeeded : outcome table order = (.ok rolled, source)) :
    room.fill place order options =
      ((room.withSource place source).withRoll place rolled).announce (options.under order)
        rolled := by
  rw [outcome] at succeeded
  rw [fill, roll, found, withRoll_withSource found]
  simp only [Table.roll, succeeded]

/-- A label does not change whether the roll is sent. -/
theorem send_under (order : Order) (options : RollOptions) :
    (options.under order).send = options.send := by
  unfold RollOptions.under
  split <;> rfl

theorem map_eq_error {ε α β : Type} {found : Except ε α} {f : α → β} {fault : ε}
    (h : found.map f = .error fault) : found = .error fault := by
  cases found with
  | error other => exact congrArg Except.error (Except.error.inj h)
  | ok a => exact nomatch h

theorem map_eq_ok {ε α β : Type} {found : Except ε α} {f : α → β} {b : β}
    (h : found.map f = .ok b) : ∃ a, found = .ok a ∧ f a = b := by
  cases found with
  | error other => exact nomatch h
  | ok a => exact ⟨a, rfl, Except.ok.inj h⟩

theorem check_refused {given : Check} {fault : Fault} (unread : given.order = .error fault) :
    room.check place given options = (.error fault, room) := by
  rw [check, unread]

theorem check_ordered {given : Check} (read : given.order = .ok order) :
    room.check place given options = room.fill place order options := by
  rw [check, read]

theorem command_refused {text : Text} {fault : Fault}
    (unread : Command.ofText text = .error fault) :
    room.command place text options = (.error fault, room) := by
  rw [command, unread]

theorem command_usage {text : Text} {found : Command} (read : Command.ofText text = .ok found)
    (free : found.order? = none) :
    room.command place text options = (.ok (.usage found.name), room) := by
  rw [command, read]
  simp only [obey, free]

theorem command_ordered {text subject : Text} {found : Command}
    (read : Command.ofText text = .ok found) (given : found.order? = some ⟨order, subject⟩) :
    room.command place text options =
      ((room.fill place order options).1.bind (Reply.ofRoll subject),
        (room.fill place order options).2) := by
  rw [command, read]
  simp only [obey, given]

/-- A request without an order is refused or answered as it comes. -/
theorem perform_refused {fault : Fault} (refused : request.order? = .error fault) :
    room.perform (request.action place options) = (.error fault, room) := by
  cases request with
  | roll | damage => exact nomatch refused
  | check given =>
    rw [RollRequest.order?] at refused
    rw [RollRequest.action, perform, check_refused (map_eq_error refused)]
    rfl
  | command text =>
    rw [RollRequest.order?] at refused
    rw [RollRequest.action, perform, command_refused (map_eq_error refused)]
    rfl

/-- The usage of a command is the same at every table. -/
theorem exists_usage (unordered : request.order? = .ok none) :
    ∃ answer, answer.roll? = none ∧ ∀ (place : Nat) (options : RollOptions) (room : Room σ),
      room.perform (request.action place options) = (.ok answer, room) := by
  cases request with
  | roll | damage => exact nomatch unordered
  | check given =>
    rw [RollRequest.order?] at unordered
    obtain ⟨order, _, same⟩ := map_eq_ok unordered
    exact nomatch same
  | command text =>
    rw [RollRequest.order?] at unordered
    obtain ⟨found, read, same⟩ := map_eq_ok unordered
    refine ⟨.replied (.usage found.name), rfl, fun place options room => ?_⟩
    rw [RollRequest.action, perform, command_usage read (Option.map_eq_none_iff.mp same)]
    rfl

theorem perform_usage (unordered : request.order? = .ok none) :
    ∃ answer, room.perform (request.action place options) = (.ok answer, room) ∧
      answer.roll? = none := by
  obtain ⟨answer, silent, performed⟩ := exists_usage (σ := σ) unordered
  exact ⟨answer, performed place options room, silent⟩

/-- Only a command puts the total into its answer, and it has to be written for that. -/
structure Replies (isCommand : Bool) (reply : Roll → Except Fault Answer) : Prop where
  mute : ∀ roll, (isCommand && !Numeral.fits roll.total) = true →
    reply roll = .error (.numeral .tooLongToWrite)
  told : ∀ roll, (isCommand && !Numeral.fits roll.total) = false →
    ∃ answer, reply roll = .ok answer ∧ answer.roll? = some roll

theorem replies_rolled : Replies false fun roll => .ok (.rolled roll) where
  mute := fun _ h => nomatch h
  told := fun roll _ => ⟨.rolled roll, rfl, rfl⟩

theorem replies_replied (subject : Text) :
    Replies true fun roll => (Reply.ofRoll subject roll).map .replied where
  mute := by
    intro roll long
    have long : Numeral.fits roll.total = false := by simpa using long
    simp only [Reply.ofRoll, long, Except.map, Bool.false_eq_true, if_false]
  told := by
    intro roll short
    have short : Numeral.fits roll.total = true := by simpa using short
    simp only [Reply.ofRoll, short, Except.map, if_true]
    exact ⟨_, rfl, rfl⟩

theorem map_bind {α β γ : Type} (found : Except Fault α) (next : α → Except Fault β) (f : β → γ) :
    (found.bind next).map f = found.bind fun a => (next a).map f := by
  cases found <;> rfl

theorem map_eq_bind {α β : Type} (found : Except Fault α) (f : α → β) :
    found.map f = found.bind fun a => .ok (f a) := by
  cases found <;> rfl

/-- A request with an order fills the order and then replies. -/
theorem perform_ordered (ordered : request.order? = .ok (some order)) :
    ∃ reply, Replies request.isCommand reply ∧ ∀ (place : Nat) (options : RollOptions)
      (room : Room σ), room.perform (request.action place options) =
        ((room.fill place order options).1.bind reply, (room.fill place order options).2) := by
  cases request with
  | roll | damage =>
    cases ordered
    refine ⟨_, replies_rolled, fun place options room => ?_⟩
    rw [← map_eq_bind]
    rfl
  | check given =>
    rw [RollRequest.order?] at ordered
    obtain ⟨found, read, same⟩ := map_eq_ok ordered
    cases same
    refine ⟨_, replies_rolled, fun place options room => ?_⟩
    rw [← map_eq_bind, RollRequest.action, perform, check_ordered read]
  | command text =>
    rw [RollRequest.order?] at ordered
    obtain ⟨command, read, same⟩ := map_eq_ok ordered
    obtain ⟨⟨found, subject⟩, given, rfl⟩ := Option.map_eq_some_iff.mp same
    refine ⟨_, replies_replied subject, fun place options room => ?_⟩
    rw [← map_bind, RollRequest.action, perform, command_ordered read given]

end Room

end Tabletop
