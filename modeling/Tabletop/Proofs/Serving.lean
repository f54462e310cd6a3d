import Tabletop.Proofs.AllOrNothing

/-!
# Serving a request

A request for a roll is served by the table that it is addressed to: the answer and the table
afterwards depend on that table alone, whatever the room around it. The channel hears of the roll
exactly if it is answered with and to be sent, and hears all that was asked for with it but for
the label.
-/
namespace Tabletop

namespace RollRequest

/-- The label of a check, of damage or of healing; else what the roller asked for. -/
def flavor (options : RollOptions) : RollRequest → Option Text
  | .roll _ => options.flavor
  | .check given => some given.label
  | .damage _ kind => some (Text.capitalized kind ++ " Damage".toList)
  | .command text =>
    match Command.ofText text with
    | .ok ⟨.damage, words⟩ =>
      some (Text.capitalized (words.tail.headD "physical".toList) ++ " Damage".toList)
    | .ok ⟨.heal, _⟩ => some "Healing".toList
    | _ => options.flavor

/-- What is to be heard of a roll that answers the request. -/
def event (options : RollOptions) (request : RollRequest) (roll : Roll) : Event where
  roll := roll
  breakdown := roll.text
  flavor := request.flavor options
  speaker := options.speaker
  critical := roll.isCritical
  fumble := roll.isFumble

/-- What is to be heard of an answer to the request. -/
def announcement (options : RollOptions) (request : RollRequest) :
    Except Fault Answer → Option Event
  | .ok answer => if options.send then answer.roll?.map (request.event options) else none
  | .error _ => none

variable {request : RollRequest} {order : Order} {options : RollOptions}

theorem label_of_commandOrder {command : Command} {found : CommandOrder}
    (given : command.order? = some found) :
    found.order.label = match command with
      | ⟨.roll, _⟩ => none
      | ⟨.damage, words⟩ =>
        some (Text.capitalized (words.tail.headD "physical".toList) ++ " Damage".toList)
      | ⟨.heal, _⟩ => some "Healing".toList := by
  obtain ⟨name, words⟩ := command
  cases name with
  | roll =>
    simp only [Command.order?, Command.rollOrder?] at given
    split at given
    · cases given
    · cases given
      rfl
  | damage | heal =>
    cases words with
    | nil => cases given
    | cons expression rest =>
      cases given
      rfl

/-- An order overrides nothing of what was asked for but the flavor. -/
theorem under_eq (ordered : request.order? = .ok (some order)) :
    options.under order = { options with flavor := request.flavor options } := by
  cases request with
  | roll | damage =>
    cases ordered
    rfl
  | check given =>
    obtain ⟨found, read, same⟩ := Room.map_eq_ok ordered
    cases same
    rw [Check.order] at read
    split at read
    · cases read
      rfl
    · cases read
  | command text =>
    obtain ⟨command, read, same⟩ := Room.map_eq_ok ordered
    obtain ⟨found, given, rfl⟩ := Option.map_eq_some_iff.mp same
    have label := label_of_commandOrder given
    obtain ⟨name, words⟩ := command
    rw [RollOptions.under, label, flavor, read]
    cases name <;> rfl

theorem event_eq (ordered : request.order? = .ok (some order)) (roll : Roll) :
    Event.ofRoll roll (options.under order) = request.event options roll := by
  rw [under_eq ordered]
  rfl

theorem announcement_unsent (unsent : options.send = false) (answer : Except Fault Answer) :
    request.announcement options answer = none := by
  cases answer with
  | error fault => rfl
  | ok answer => rw [announcement, if_neg (by rw [unsent]; decide)]

end RollRequest

/-- What is shown of a table beside its rolls and its source. -/
structure TableOutline where
  id : Text
  name : Text
  limits : Limits
  capacity : Nat
  listed : Bool
  deriving DecidableEq, Repr

namespace Table

variable {σ : Type}

def outline (table : Table σ) : TableOutline :=
  ⟨table.id, table.name, table.limits, table.history.capacity, table.listed⟩

variable [DrawSource σ]

/-- The order is filled at the table, and the roll is told if it can be. -/
def filled (order : Order) (options : RollOptions) (table : Table σ) :
    Except Fault Roll × Table σ :=
  match Room.outcome table order with
  | (.error fault, source) => (.error fault, { table with source := source })
  | (.ok roll, source) =>
    (if options.send && !roll.isWritable then .error (.numeral .tooLongToWrite) else .ok roll,
      { table with source := source, history := table.history.push roll })

theorem outline_filled (order : Order) (options : RollOptions) (table : Table σ) :
    (table.filled order options).2.outline = table.outline := by
  rw [filled]
  split <;> rfl

theorem source_filled (order : Order) (options : RollOptions) (table : Table σ) :
    (table.filled order options).2.source = (Room.outcome table order).2 := by
  rw [filled]
  split <;> simp_all

variable {table : Table σ} {order : Order} {options : RollOptions}

theorem filled_of_fault {fault : Fault} {source : σ}
    (failed : Room.outcome table order = (.error fault, source)) :
    (table.filled order options).1 = .error fault := by
  rw [filled, failed]

/-- A roll that is made is told unless it is to be sent and one of its two sums is too long. -/
theorem filled_of_rolled {roll : Roll} {source : σ}
    (rolled : Room.outcome table order = (.ok roll, source)) :
    (table.filled order options).1 =
      if options.send && !(Numeral.fits roll.flatSum && Numeral.fits roll.total) then
        .error (.numeral .tooLongToWrite)
      else .ok roll := by
  rw [filled, rolled, ← Room.isWritable_of_outcome rolled]

end Table

namespace Room

variable {σ : Type}

/-- The room after an event, if there is one. -/
def publish? (event? : Option Event) (room : Room σ) : Room σ :=
  event?.elim room fun event => room.publish event

variable [DrawSource σ] {place : Nat} {room : Room σ} {table : Table σ} {order : Order}
  {options : RollOptions} {request : RollRequest}

/-- What is heard of the order at the table. -/
def heard (order : Order) (options : RollOptions) (table : Table σ) : Option Event :=
  match (table.filled order options).1 with
  | .ok roll => if options.send then some (Event.ofRoll roll (options.under order)) else none
  | .error _ => none

theorem fill_filled (found : room.table? place = some table) :
    room.fill place order options = ((table.filled order options).1,
      (room.withTable place (table.filled order options).2).publish?
        (heard order options table)) := by
  cases rolled : outcome table order with
  | mk result source =>
  cases result with
  | error fault =>
    simp only [heard, Table.filled, rolled]
    rw [fill_fault found rolled, withSource_eq found]
    rfl
  | ok roll =>
    simp only [heard, Table.filled, rolled]
    rw [fill_roll found rolled, withRoll_withSource found]
    cases send : options.send with
    | false =>
      rw [announce_unsent ((send_under order options).trans send)]
      rfl
    | true =>
      have sent : (options.under order).send = true := (send_under order options).trans send
      cases writable : roll.isWritable with
      | false =>
        rw [announce_mute sent writable]
        rfl
      | true =>
        rw [announce_sent sent writable]
        rfl

/-- A roll that is told and sent can be written. -/
theorem isWritable_of_filled {roll : Roll} (told : (table.filled order options).1 = .ok roll)
    (send : options.send = true) : roll.isWritable = true ∧ Numeral.fits roll.total = true := by
  cases made : outcome table order with
  | mk result source =>
  cases result with
  | error fault =>
    rw [Table.filled_of_fault made] at told
    cases told
  | ok found =>
    rw [Table.filled_of_rolled made, send, Bool.true_and] at told
    split at told
    · cases told
    next sums =>
      cases told
      have sums : (Numeral.fits roll.flatSum && Numeral.fits roll.total) = true := by
        simpa using sums
      exact ⟨(isWritable_of_outcome made).trans sums, (Bool.and_eq_true_iff.mp sums).2⟩

/-- How a request is served in whatever room: without its table, and by its table. -/
structure Serves (options : RollOptions) (request : RollRequest) (absent : Except Fault Answer)
    (serve : Table σ → Except Fault Answer × Table σ) : Prop where
  missing : ∀ (place : Nat) (room : Room σ), room.table? place = none →
    room.perform (request.action place options) = (absent, room)
  found : ∀ (place : Nat) (room : Room σ) (table : Table σ), room.table? place = some table →
    room.perform (request.action place options) = ((serve table).1,
      (room.withTable place (serve table).2).publish?
        (request.announcement options (serve table).1))
  outline : ∀ table, (serve table).2.outline = table.outline
  silent : request.announcement options absent = none
  written : ∀ table, ∀ event ∈ request.announcement options (serve table).1,
    event.roll.line = .ok event.breakdown

/-- A request that has nothing to roll leaves every table as it is. -/
theorem serves_of_kept {answer : Except Fault Answer}
    (kept : ∀ (place : Nat) (room : Room σ),
      room.perform (request.action place options) = (answer, room))
    (silent : request.announcement options answer = none) :
    Serves options request answer fun table : Table σ => (answer, table) where
  missing := fun place room _ => kept place room
  found := by
    intro place room table found
    rw [kept, silent, withTable_self found]
    rfl
  outline := fun _ => rfl
  silent := silent
  written := by
    intro _ event told
    rw [silent] at told
    cases told

theorem announcement_filled (ordered : request.order? = .ok (some order))
    {reply : Roll → Except Fault Answer} (replies : Replies request.isCommand reply)
    (table : Table σ) :
    request.announcement options ((table.filled order options).1.bind reply) =
      heard order options table := by
  rw [heard]
  cases send : options.send with
  | false =>
    rw [RollRequest.announcement_unsent send]
    split <;> rfl
  | true =>
    cases told : (table.filled order options).1 with
    | error fault => rfl
    | ok roll =>
      have loud : (request.isCommand && !Numeral.fits roll.total) = false := by
        simp [(isWritable_of_filled told send).2]
      obtain ⟨answer, replied, about⟩ := replies.told roll loud
      simp only [Except.bind, replied, RollRequest.announcement, send, if_true, about,
        Option.map_some, RollRequest.event_eq ordered]

theorem line_of_heard {event : Event} (told : heard order options table = some event) :
    event.roll.line = .ok event.breakdown := by
  rw [heard] at told
  split at told
  next roll filled =>
    split at told
    next send =>
      cases told
      rw [Roll.line]
      exact if_pos (isWritable_of_filled filled send).1
    · cases told
  · cases told

theorem serves_of_ordered (ordered : request.order? = .ok (some order)) :
    ∃ absent serve, Serves (σ := σ) options request absent serve := by
  obtain ⟨reply, replies, performed⟩ := perform_ordered (σ := σ) ordered
  refine ⟨.error .noTable,
    fun table => ((table.filled order options).1.bind reply, (table.filled order options).2), ?_⟩
  exact
    { missing := by
        intro place room missing
        rw [performed, fill_missing missing]
        rfl
      found := by
        intro place room table found
        rw [performed, fill_filled found, announcement_filled ordered replies]
      outline := Table.outline_filled order options
      silent := rfl
      written := by
        intro table event told
        rw [announcement_filled ordered replies] at told
        exact line_of_heard told }

theorem exists_serves (options : RollOptions) (request : RollRequest) :
    ∃ absent serve, Serves (σ := σ) options request absent serve := by
  cases ordered : request.order? with
  | error fault => exact ⟨_, _, serves_of_kept (fun _ _ => perform_refused ordered) rfl⟩
  | ok order? =>
    cases order? with
    | none =>
      obtain ⟨answer, silent, performed⟩ := exists_usage (σ := σ) ordered
      refine ⟨.ok answer, _, serves_of_kept (fun place room => performed place options room) ?_⟩
      simp [RollRequest.announcement, silent]
    | some order => exact serves_of_ordered ordered

end Room

end Tabletop
