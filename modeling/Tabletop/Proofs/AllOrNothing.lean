import Tabletop.Proofs.Parsing
import Tabletop.Proofs.Requests

/-!
# A roll is all or nothing

A request that fails should leave everything but the source of its table as it was, and a request
that succeeds should leave its roll in one history and, if it is sent, in one event. This holds
unless the roll is remembered and a sum of it turns out to be too long to be written, either for
the event or for the reply to a command: then the request fails with the roll in the history.
-/
namespace Tabletop

namespace Roll

variable {σ : Type} [DrawSource σ]

/-- Whatever fails before the dice leaves the source alone, and of a finished roll only the two
sums may be too long to be written. -/
def Finishes (source : σ) : Except Fault Roll × σ → Prop
  | (.ok roll, _) => roll.isWritable = (Numeral.fits roll.flatSum && Numeral.fits roll.total)
  | (.error fault, after) => fault.kind.isEarly = true → after = source

theorem finishes_ofExpression (limits : Limits) (raw : Text) (source : σ) :
    Finishes source ((ofExpression limits raw : Rolling σ Roll).run.run source) := by
  rw [ofExpression]
  cases Notation.parse limits raw with
  | error fault => exact fun _ => rfl
  | ok parsed =>
    by_cases empty : parsed.terms.isEmpty = true
    · simp only [empty, if_true]
      exact fun _ => rfl
    · simp only [empty, Bool.false_eq_true, if_false]
      have ensured := ensures_ofParsed limits parsed source
      generalize (ofParsed limits parsed : Rolling σ Roll).run.run source = outcome at ensured
      obtain ⟨found, after⟩ := outcome
      cases found with
      | ok roll => exact ensured
      | error fault =>
        intro early
        have late : fault.kind.isEarly = false := ensured
        rw [late] at early
        cases early

end Roll

/-- The request has to write a sum of the roll that it cannot write. -/
def RollRequest.isMute (options : RollOptions) (request : RollRequest) (roll : Roll) : Bool :=
  options.send && !Numeral.fits roll.flatSum ||
    (options.send || request.isCommand) && !Numeral.fits roll.total

namespace Room

section Announcing

variable {σ : Type} {options : RollOptions} {room : Room σ} {roll : Roll}

theorem announce_mute (send : options.send = true) (unwritable : roll.isWritable = false) :
    room.announce options roll = (.error (.numeral .tooLongToWrite), room) := by
  rw [announce, if_pos send, Roll.line, if_neg (by rw [unwritable]; decide)]

theorem announce_unsent (unsent : options.send = false) :
    room.announce options roll = (.ok roll, room) := by
  rw [announce, if_neg (by rw [unsent]; decide)]

theorem announce_sent (send : options.send = true) (writable : roll.isWritable = true) :
    room.announce options roll = (.ok roll, room.publish (Event.ofRoll roll options)) := by
  rw [announce, if_pos send, Roll.line, if_pos writable]

end Announcing

variable {σ : Type} [DrawSource σ]

/-- What a request should leave behind. Equal rooms have equal sources, so a request that leaves
the room as it was has drawn nothing. -/
def AllOrNothing (place : Nat) (options : RollOptions) (request : RollRequest) (room : Room σ) :
    Prop :=
  match room.perform (request.action place options) with
  | (.error fault, after) =>
    (∃ source, after = room.withSource place source) ∧
      (fault.kind.isEarly = true → after = room)
  | (.ok answer, after) =>
    match answer.roll? with
    | none => after = room
    | some roll =>
      (room.table? place).isSome = true ∧ ∃ source event, event.roll = roll ∧
        after = if options.send then
            ((room.withSource place source).withRoll place roll).publish event
          else (room.withSource place source).withRoll place roll

/-- The table rolls what is asked for, and the request cannot say so. A push shows unless the
history is full of that very roll. -/
def FailsLate (place : Nat) (options : RollOptions) (request : RollRequest) (room : Room σ) :
    Prop :=
  ∃ order table roll source, request.order? = .ok (some order) ∧
    room.table? place = some table ∧ outcome table order = (.ok roll, source) ∧
    request.isMute options roll = true ∧ table.history.push roll ≠ table.history

variable {place : Nat} {options : RollOptions} {request : RollRequest} {room : Room σ}
  {table : Table σ} {order : Order}

theorem allOrNothing_of_kept {fault : Fault}
    (kept : room.perform (request.action place options) = (.error fault, room)) :
    room.AllOrNothing place options request := by
  obtain ⟨source, same⟩ := exists_withSource place room
  rw [AllOrNothing, kept]
  exact ⟨⟨source, same.symm⟩, fun _ => rfl⟩

omit [DrawSource σ] in
/-- A push that changes nothing is the only one that does not show. -/
theorem exists_withSource_eq_iff (found : room.table? place = some table) (source : σ)
    (roll : Roll) :
    (∃ other, (room.withSource place source).withRoll place roll = room.withSource place other) ↔
      table.history.push roll = table.history := by
  rw [withRoll_withSource found]
  constructor
  · rintro ⟨other, same⟩
    rw [withSource_eq found] at same
    have tables := congrArg (table? place) same
    rw [table?_withTable found, table?_withTable found] at tables
    exact congrArg Table.history (Option.some.inj tables)
  · intro same
    refine ⟨source, ?_⟩
    rw [withSource_eq found, same]

theorem isWritable_of_outcome {roll : Roll} {source : σ}
    (rolled : outcome table order = (.ok roll, source)) :
    roll.isWritable = (Numeral.fits roll.flatSum && Numeral.fits roll.total) := by
  have finished := Roll.finishes_ofExpression table.limits order.expression table.source
  rw [outcome] at rolled
  rw [rolled] at finished
  exact finished

theorem source_of_outcome {fault : Fault} {source : σ}
    (failed : outcome table order = (.error fault, source)) (early : fault.kind.isEarly = true) :
    source = table.source := by
  have finished := Roll.finishes_ofExpression table.limits order.expression table.source
  rw [outcome] at failed
  rw [failed] at finished
  exact finished early

/-- The roll is remembered, and then the request fails. -/
theorem perform_mute (ordered : request.order? = .ok (some order))
    (found : room.table? place = some table) {roll : Roll} {source : σ}
    (rolled : outcome table order = (.ok roll, source))
    (mute : request.isMute options roll = true) :
    room.perform (request.action place options) = (.error (.numeral .tooLongToWrite),
      (room.withSource place source).withRoll place roll) := by
  obtain ⟨reply, replies, performed⟩ := perform_ordered (σ := σ) ordered
  have writable := isWritable_of_outcome rolled
  rw [performed, fill_roll found rolled]
  rw [RollRequest.isMute] at mute
  cases send : options.send with
  | true =>
    have sent : (options.under order).send = true := (send_under order options).trans send
    have unwritable : roll.isWritable = false := by
      rw [writable]
      cases flat : Numeral.fits roll.flatSum with
      | false => rfl
      | true => simpa [send, flat] using mute
    rw [announce_mute sent unwritable]
    rfl
  | false =>
    have unsent : (options.under order).send = false := (send_under order options).trans send
    have silent : (request.isCommand && !Numeral.fits roll.total) = true := by
      simpa [send] using mute
    rw [announce_unsent unsent]
    exact congrArg (·, _) (replies.mute roll silent)

/-- What can be told is told, and everything that should happen has happened. -/
theorem allOrNothing_of_told (ordered : request.order? = .ok (some order))
    (found : room.table? place = some table) {roll : Roll} {source : σ}
    (rolled : outcome table order = (.ok roll, source))
    (told : request.isMute options roll = false) : room.AllOrNothing place options request := by
  obtain ⟨reply, replies, performed⟩ := perform_ordered (σ := σ) ordered
  have writable := isWritable_of_outcome rolled
  have listed : (room.table? place).isSome = true := by
    rw [found]
    rfl
  rw [RollRequest.isMute, Bool.or_eq_false_iff] at told
  have loud : (request.isCommand && !Numeral.fits roll.total) = false := by
    cases command : request.isCommand with
    | false => rfl
    | true => simpa [command] using told.2
  obtain ⟨answer, replied, about⟩ := replies.told roll loud
  rw [AllOrNothing, performed, fill_roll found rolled]
  cases send : options.send with
  | true =>
    have sent : (options.under order).send = true := (send_under order options).trans send
    have shown : roll.isWritable = true := by
      rw [writable]
      simpa [send] using told
    rw [announce_sent sent shown]
    simp only [Except.bind, replied, about]
    exact ⟨listed, source, _, rfl, rfl⟩
  | false =>
    have unsent : (options.under order).send = false := (send_under order options).trans send
    rw [announce_unsent unsent]
    simp only [Except.bind, replied, about]
    exact ⟨listed, source, Event.ofRoll roll options, rfl, rfl⟩

theorem allOrNothing_of_missing (ordered : request.order? = .ok (some order))
    (missing : room.table? place = none) : room.AllOrNothing place options request := by
  obtain ⟨reply, _, performed⟩ := perform_ordered (σ := σ) ordered
  have kept : room.perform (request.action place options) = (.error .noTable, room) := by
    rw [performed, fill_missing missing]
    rfl
  exact allOrNothing_of_kept kept

theorem allOrNothing_of_fault (ordered : request.order? = .ok (some order))
    (found : room.table? place = some table) {fault : Fault} {source : σ}
    (failed : outcome table order = (.error fault, source)) :
    room.AllOrNothing place options request := by
  obtain ⟨reply, _, performed⟩ := perform_ordered (σ := σ) ordered
  rw [AllOrNothing, performed, fill_fault found failed]
  refine ⟨⟨source, rfl⟩, fun early => ?_⟩
  rw [source_of_outcome failed early, withSource_eq found]
  exact withTable_self found

theorem allOrNothing_mute_iff (ordered : request.order? = .ok (some order))
    (found : room.table? place = some table) {roll : Roll} {source : σ}
    (rolled : outcome table order = (.ok roll, source))
    (mute : request.isMute options roll = true) :
    room.AllOrNothing place options request ↔ table.history.push roll = table.history := by
  rw [AllOrNothing, perform_mute ordered found rolled mute, ← exists_withSource_eq_iff found]
  exact ⟨fun holds => holds.1, fun kept => ⟨kept, fun early => nomatch early⟩⟩

/-- A request is all or nothing unless its roll is remembered before it fails. -/
theorem allOrNothing_iff (place : Nat) (options : RollOptions) (request : RollRequest)
    (room : Room σ) :
    room.AllOrNothing place options request ↔ ¬room.FailsLate place options request := by
  constructor
  · rintro holds ⟨order, table, roll, source, ordered, found, rolled, mute, pushed⟩
    exact pushed ((allOrNothing_mute_iff ordered found rolled mute).mp holds)
  intro onTime
  cases ordered : request.order? with
  | error fault => exact allOrNothing_of_kept (perform_refused ordered)
  | ok order? =>
    cases order? with
    | none =>
      obtain ⟨answer, performed, silent⟩ :
          ∃ answer, room.perform (request.action place options) = (.ok answer, room) ∧
            answer.roll? = none := perform_usage ordered
      rw [AllOrNothing, performed]
      simp only [silent]
    | some order =>
      cases found : room.table? place with
      | none => exact allOrNothing_of_missing ordered found
      | some table =>
        cases rolled : outcome table order with
        | mk result source =>
        cases result with
        | error fault => exact allOrNothing_of_fault ordered found rolled
        | ok roll =>
          cases mute : request.isMute options roll with
          | false => exact allOrNothing_of_told ordered found rolled mute
          | true =>
            refine (allOrNothing_mute_iff ordered found rolled mute).mpr ?_
            by_contra pushed
            exact onTime ⟨order, table, roll, source, ordered, found, rolled, mute, pushed⟩

end Room

/-! ### A sum that is too long -/

theorem Numeral.value_nines (n : Nat) : value (List.replicate n '9') + 1 = 10 ^ n := by
  induction n with
  | zero => rfl
  | succ n ih =>
    have nine : (Text.digitValue? '9').getD 0 = 9 := by decide
    rw [List.replicate_succ', value_append, nine, Nat.pow_succ]
    omega

namespace Notation

/-- The largest number that can be read. -/
def longestRun : DigitRun where
  text := List.replicate Numeral.maxDigits '9'
  nonempty := by
    rw [Ne, List.replicate_eq_nil_iff]
    decide
  digits := by
    intro c member
    rw [List.eq_of_mem_replicate member]
    decide
  short := Nat.le_of_eq List.length_replicate

/-- Two numbers that can be written, and whose sum cannot. -/
def longTerms : List WrittenTerm := [.flat ⟨none, longestRun⟩, .flat ⟨some .plus, longestRun⟩]

def longParsed : Parsed := ⟨textOf longTerms, longTerms.map WrittenTerm.term, []⟩

theorem parse_longTerms (limits : Limits) : parse limits (textOf longTerms) = .ok longParsed := by
  refine parse_textOf (List.cons_ne_nil _ _) ?_ ?_ (Text.spelled_of_marks (marks_textOf longTerms))
  · simp only [longTerms, List.forall_mem_cons]
    exact ⟨trivial, trivial, List.forall_mem_nil _⟩
  · simp only [longTerms, List.tail_cons, List.forall_mem_cons]
    exact ⟨rfl, List.forall_mem_nil _⟩

end Notation

open Notation (longParsed longestRun longTerms textOf)

/-- What the two numbers make. -/
def longRoll : Roll := Roll.ofGroups longParsed []

theorem fits_flatSum_longRoll : Numeral.fits longRoll.flatSum = false := by
  have sum : longRoll.flatSum = 2 * (longestRun.value : Int) := by
    simp only [longRoll, longParsed, Roll.ofGroups, Parsed.flatTerms, longTerms, List.map_cons,
      List.map_nil, Notation.WrittenTerm.term, List.filterMap_cons, List.filterMap_nil,
      Term.flat?, Numeral.sum, Notation.WrittenInteger.value, reduceCtorEq, Option.some.injEq,
      if_false]
    omega
  have nines : longestRun.value + 1 = 10 ^ Numeral.maxDigits :=
    Numeral.value_nines Numeral.maxDigits
  have large : 1 < 10 ^ Numeral.maxDigits := Nat.one_lt_pow (by decide) (by decide)
  rw [Bool.eq_false_iff, Ne, Numeral.fits_iff, sum]
  omega

theorem outcome_longTerms {σ : Type} [DrawSource σ] (table : Table σ) :
    Room.outcome table (.plain (textOf longTerms)) = (.ok longRoll, table.source) := by
  have rolled := Roll.ofExpression_of_parse (σ := σ) (Notation.parse_longTerms table.limits)
    (List.cons_ne_nil _ _)
  rw [Room.outcome, Order.plain, rolled]
  rfl

/-- A room with one table, which has not rolled yet. -/
def freshRoom : Room Supply :=
  let room := Room.start ⟨50, ⟨100, 1000, 50⟩, fun _ => .highest⟩ (Channel.start false)
  (room.create [] none none).2

/-- The request fails, and the roll is in the history. -/
theorem not_allOrNothing_longTerms :
    ¬freshRoom.AllOrNothing 0 {} (.roll (textOf longTerms)) := by
  intro holds
  obtain ⟨table, found, empty⟩ : ∃ table, freshRoom.table? 0 = some table ∧
      table.history = ⟨50, []⟩ := ⟨_, rfl, rfl⟩
  have mute : RollRequest.isMute {} (.roll (textOf longTerms)) longRoll = true := by
    rw [RollRequest.isMute, fits_flatSum_longRoll]
    rfl
  have kept := (Room.allOrNothing_mute_iff rfl found (outcome_longTerms table) mute).mp holds
  rw [empty] at kept
  exact nomatch congrArg History.size kept

end Tabletop
