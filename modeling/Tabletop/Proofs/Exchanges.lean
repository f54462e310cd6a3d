import Tabletop.Proofs.Failures
import Tabletop.Proofs.Listing

/-!
# Exchanges

A service answers requests one after the other. What a request does to the tables is one move, and
the response to it tells the move: a roll is remembered exactly if the response carries it, unless
the request fails late.
-/
namespace Tabletop

/-- What is done to the tables of a registry, but for their sources. -/
inductive Move (σ : Type) where
  | rest
  | opened (table : Table σ)
  | closed (id : Text)
  | rolled (id : Text) (roll : Roll)
  | cleared (id : Text)

namespace Registry

variable {σ : Type}

/-- How a move changes a registry. -/
inductive Moves (before : Registry σ) : Move σ → Registry σ → Prop
  | rest {after : Registry σ}
    (records : after.tables.map Table.record = before.tables.map Table.record)
    (attempts : before.attempts ≤ after.attempts) : Moves before .rest after
  | opened {name : Text} {capacity : Option Int} {limits : Option Limits}
    (opens : History.Opens (before.granted capacity)) :
    Moves before (.opened (before.newest name capacity limits))
      { before with
        tables := before.tables ++ [before.newest name capacity limits]
        attempts := before.attempts + 1 }
  | closed (id : Text) : Moves before (.closed id) (before.delete id).2
  | rolled {id : Text} {place : Nat} {table : Table σ} {roll : Roll} {source : σ}
    (found : before.placeOf? id = some place) (here : before.tables[place]? = some table) :
    Moves before (.rolled id roll)
      (before.put place { table with source := source, history := table.history.push roll })
  | cleared {id : Text} {place : Nat} {table : Table σ}
    (found : before.placeOf? id = some place) (here : before.tables[place]? = some table) :
    Moves before (.cleared id) (before.put place { table with history := table.history.clear })

end Registry

namespace Move

variable {σ : Type}

/-- The id of the table that the move opens. -/
@[simp] def opened? : Move σ → Option Text
  | opened table => some table.id
  | _ => none

/-- The roll that the move adds to the table of an id. -/
@[simp] def roll? (id : Text) : Move σ → Option Roll
  | rolled own roll => if own = id then some roll else none
  | _ => none

@[simp] def clears (id : Text) : Move σ → Bool
  | cleared own => own == id
  | _ => false

@[simp] def closes (id : Text) : Move σ → Bool
  | closed own => own == id
  | _ => false

end Move

/-- The result that a response carries: what is rolled, or what a command has rolled. -/
def Response.result? (response : Response) (call : TableCall) : Option Document :=
  match call, response with
  | .roll, ⟨201, .json value⟩ | .check, ⟨201, .json value⟩ => some value
  | .command, ⟨200, .json (.object fields)⟩ =>
    match fields.lookup "result" with
    | some .null => none
    | found => found
  | _, _ => none

/-- The id that a response to an opening tells. -/
def Response.opened? (response : Response) : Option Text :=
  match response with
  | ⟨201, .json (.object fields)⟩ =>
    match fields.lookup "id" with
    | some (.text id) => some id.toList
    | _ => none
  | _ => none

namespace Call

/-- What the call asks of the table of the id, if it is for that table. -/
def at? (id : Text) : Call → Option TableCall
  | .ofTable own call => if own = id then some call else none
  | _ => none

/-- The call neither rolls nor forgets nor closes. -/
def isQuiet : Call → Bool
  | .openTable | .listTables | .ofTable _ .read | .ofTable _ .recent | .ofTable _ .latest
  | .ofTable _ .latestText => true
  | _ => false

theorem beq_ofTable (one other : Text) (first second : TableCall) :
    (ofTable one first == ofTable other second) = (one == other && first == second) := by
  rw [Bool.eq_iff_iff]
  simp

end Call

namespace Service

/-- A request and the room that it comes to. -/
structure Exchange (σ : Type) where
  before : Room σ
  request : Request

variable {σ : Type} [DrawSource σ]

namespace Exchange

def response (exchange : Exchange σ) : Except Fault Response :=
  (handle exchange.request exchange.before).1

def after (exchange : Exchange σ) : Room σ := (handle exchange.request exchange.before).2

/-- The id of the table that is opened, as it is sent back. -/
def opened? (exchange : Exchange σ) : Option Text :=
  match exchange.request.call, exchange.response with
  | .ok .openTable, .ok response => response.opened?
  | _, _ => none

/-- The result that is sent back from the table of an id. -/
def result? (id : Text) (exchange : Exchange σ) : Option Document :=
  match exchange.request.call, exchange.response with
  | .ok call, .ok response => (call.at? id).bind response.result?
  | _, _ => none

/-- The roll that the table of an id answers with. -/
def roll? (id : Text) (exchange : Exchange σ) : Option Roll :=
  match exchange.request.action exchange.before.registry with
  | .ok (call, action) =>
    (call.at? id).bind fun _ => (exchange.before.perform action).1.toOption.bind Answer.roll?
  | .error _ => none

/-- The call was answered with the bare status of success. -/
def fulfils (call : Call) (exchange : Exchange σ) : Bool :=
  match exchange.request.call, exchange.response with
  | .ok asked, .ok response => asked == call && response.status == 204
  | _, _ => false

/-- The rolls of the table are forgotten. -/
def clears (id : Text) : Exchange σ → Bool := fulfils (.ofTable id .clear)

/-- The table is closed. -/
def closes (id : Text) : Exchange σ → Bool := fulfils (.ofTable id .close)

end Exchange

def exchanges : List Request → Room σ → List (Exchange σ)
  | [], _ => []
  | request :: rest, room => ⟨room, request⟩ :: exchanges rest (handle request room).2

/-- Whether the table of an id is open after an exchange. -/
def keepsOpen (id : Text) (isOpen : Bool) (exchange : Exchange σ) : Bool :=
  if exchange.opened? = some id then true else isOpen && !exchange.closes id

/-- The table of an id was opened and has not been closed since. -/
def isOpenAfter (id : Text) (exchanges : List (Exchange σ)) : Bool :=
  exchanges.foldl (keepsOpen id) false

/-- The entries of the exchanges since the last clearing, newest first. -/
def logged {α : Type} (id : Text) (told? : Exchange σ → Option α) (log : List α)
    (exchange : Exchange σ) : List α :=
  if exchange.clears id then [] else (told? exchange).toList ++ log

/-- The results sent back from the table of an id since it was last cleared, newest first. -/
def resultsOf (id : Text) (exchanges : List (Exchange σ)) : List Document :=
  exchanges.foldl (logged id (Exchange.result? id)) []

/-- The rolls that the table of an id answered with since it was last cleared, newest first. -/
def rollsOf (id : Text) (exchanges : List (Exchange σ)) : List Roll :=
  exchanges.foldl (logged id (Exchange.roll? id)) []

end Service

/-! ### Responses that tell nothing -/

namespace Request

variable {request : Request} {response : Response}

theorem status_of_call (refused : request.call = .error response) : 300 ≤ response.status := by
  simp only [call] at refused
  split at refused
  · cases refused
    split <;> decide
  · split at refused
    · cases refused
      decide
    · cases refused

theorem status_of_document? {body : Text} (unread : document? body = .error response) :
    300 ≤ response.status := by
  rw [document?] at unread
  split at unread
  · cases unread
  · split at unread
    · cases unread
    all_goals
      cases unread
      decide

theorem status_of_actionOf {σ : Type} {registry : Registry σ} {call : Call} {query : Query}
    {document : Option Document}
    (refused : actionOf call query document registry = .error response) :
    300 ≤ response.status := by
  have complained {checked : Form.Checked Action}
      (bad : Response.unlessGood checked = .error response) : 300 ≤ response.status := by
    cases checked with
    | good action => cases bad
    | bad complaints =>
      cases bad
      exact show 300 ≤ 422 by decide
  cases call with
  | openTable => exact complained refused
  | listTables => cases refused
  | ofTable id call =>
    simp only [actionOf] at refused
    split at refused
    · cases refused
      decide
    · exact complained refused

/-- A request that is turned down is not a success. -/
theorem status_of_refused {σ : Type} {registry : Registry σ}
    (refused : request.action registry = .error response) : 300 ≤ response.status := by
  rw [action_eq] at refused
  cases called : request.call with
  | error first =>
    rw [called] at refused
    cases refused
    exact status_of_call called
  | ok call =>
  cases read : request.found call with
  | error second =>
    simp only [called, Except.bind, read, Except.error.injEq] at refused
    rw [found] at read
    split at read
    · exact refused ▸ status_of_document? read
    · cases read
  | ok document =>
    simp only [called, Except.bind, read] at refused
    exact status_of_actionOf (Room.map_eq_error refused)

end Request

namespace Response

theorem result?_of_status {response : Response} (refused : 300 ≤ response.status)
    (call : TableCall) : response.result? call = none := by
  unfold result?
  split
  · exact absurd refused (show ¬300 ≤ 201 by decide)
  · exact absurd refused (show ¬300 ≤ 201 by decide)
  · exact absurd refused (show ¬300 ≤ 200 by decide)
  · rfl

theorem opened?_of_status {response : Response} (refused : 300 ≤ response.status) :
    response.opened? = none := by
  unfold opened?
  split
  · exact absurd refused (show ¬300 ≤ 201 by decide)
  · rfl

theorem eq_of_sendable {response sent : Response} (sends : response.sendable = .ok sent) :
    response = sent := by
  rw [sendable] at sends
  split at sends
  · split at sends
    · exact Except.ok.inj sends
    · cases sends
  · split at sends
    · exact Except.ok.inj sends
    · cases sends
  · exact Except.ok.inj sends
  · exact Except.ok.inj sends

end Response

namespace Move

variable {σ : Type}

/-- What the move puts into the tables can be sent. -/
def IsSendable : Move σ → Prop
  | rolled _ roll => (roll.document .camel).isWritable = true ∧ roll.isWritable = true
  | opened table => Numeral.fits table.history.capacity = true
  | _ => True

end Move

theorem Room.attempts_withSource {σ : Type} (place : Nat) (source : σ) (room : Room σ) :
    (room.withSource place source).registry.attempts = room.registry.attempts := by
  rw [withSource]
  split <;> rfl

namespace Service

variable {σ : Type} [DrawSource σ] {request : Request} {room : Room σ}

/-- The exchange makes the move, and its response tells it. -/
structure Exchange.Makes (exchange : Exchange σ) (move : Move σ) : Prop where
  moves : exchange.before.registry.Moves move exchange.after.registry
  clears : ∀ id, exchange.clears id = move.clears id
  closes : ∀ id, exchange.closes id = move.closes id
  sendable : ¬exchange.request.FailsLate exchange.before → move.IsSendable
  opened? : ¬exchange.request.FailsLate exchange.before → exchange.opened? = move.opened?
  roll? : ¬exchange.request.FailsLate exchange.before → ∀ id, exchange.roll? id = move.roll? id
  result? : ¬exchange.request.FailsLate exchange.before →
    ∀ id, exchange.result? id = (move.roll? id).map (Roll.document .camel)

namespace Exchange

variable {exchange : Exchange σ} {call : Call} {action : Action}

theorem result?_of_status (refused : ∀ response, exchange.response = .ok response →
    300 ≤ response.status) (id : Text) : exchange.result? id = none := by
  unfold result?
  split
  next call response _ answered =>
    have silent : response.result? = fun _ => none :=
      funext (Response.result?_of_status (refused response answered))
    rw [silent]
    cases call.at? id <;> rfl
  · rfl

theorem opened?_of_status (refused : ∀ response, exchange.response = .ok response →
    300 ≤ response.status) : exchange.opened? = none := by
  unfold opened?
  split
  next response _ answered => exact Response.opened?_of_status (refused response answered)
  · rfl

theorem fulfils_of_status (refused : ∀ response, exchange.response = .ok response →
    300 ≤ response.status) (call : Call) : exchange.fulfils call = false := by
  unfold fulfils
  split
  next response _ answered =>
    have high := refused response answered
    have other : (response.status == 204) = false := beq_eq_false_iff_ne.mpr (by omega)
    rw [other, Bool.and_false]
  · rfl

theorem refused_of_fault {fault : Fault} (unanswered : exchange.response = .error fault) :
    ∀ response, exchange.response = .ok response → 300 ≤ response.status := by
  intro response answered
  rw [unanswered] at answered
  exact nomatch answered

omit [DrawSource σ] in
theorem moves_refl (registry : Registry σ) : registry.Moves .rest registry :=
  .rest rfl (Nat.le_refl _)

theorem status_of_refused {response : Response}
    (refused : request.action room.registry = .error response) :
    ∀ found, Exchange.response ⟨room, request⟩ = .ok found → 300 ≤ found.status := by
  intro found answered
  rw [Exchange.response, Service.handle_refused refused, send] at answered
  obtain ⟨sent, sends, rfl⟩ := Room.map_eq_ok answered
  have low := Request.status_of_refused refused
  rw [Response.eq_of_sendable sends] at low
  split
  · exact low
  · exact low

theorem makes_rest_of_refused {response : Response}
    (refused : request.action room.registry = .error response) :
    Makes ⟨room, request⟩ .rest where
  moves := by
    rw [Exchange.after, Service.handle_refused refused]
    exact moves_refl _
  clears _ := fulfils_of_status (status_of_refused refused) _
  closes _ := fulfils_of_status (status_of_refused refused) _
  sendable _ := trivial
  opened? _ := opened?_of_status (status_of_refused refused)
  roll? _ id := by
    rw [Exchange.roll?, refused]
    rfl
  result? _ id := result?_of_status (status_of_refused refused) id

/-! ### Calls that are carried out -/

section Asked

variable (asked : request.action room.registry = .ok (call, action))
include asked

theorem response_of_asked : Exchange.response ⟨room, request⟩ =
    (respond call (room.perform action).1).bind Response.sendable := by
  rw [Exchange.response, handle_asked asked]

theorem after_of_asked : Exchange.after ⟨room, request⟩ = (room.perform action).2 := by
  rw [Exchange.after, handle_asked asked]

theorem fulfils_of_asked {response : Response}
    (answered : Exchange.response ⟨room, request⟩ = .ok response) (other : Call) :
    Exchange.fulfils other ⟨room, request⟩ = (call == other && response.status == 204) := by
  rw [Exchange.fulfils, (Request.means_of_action asked).1, answered]

theorem roll?_of_asked (id : Text) : Exchange.roll? id ⟨room, request⟩ =
    (call.at? id).bind fun _ => (room.perform action).1.toOption.bind Answer.roll? := by
  rw [Exchange.roll?, asked]

theorem roll?_of_silent
    (silent : ∀ answer, (room.perform action).1 = .ok answer → answer.roll? = none) (id : Text) :
    Exchange.roll? id ⟨room, request⟩ = none := by
  rw [roll?_of_asked asked]
  cases answered : (room.perform action).1 with
  | error fault => cases call.at? id <;> rfl
  | ok answer =>
    simp only [Except.toOption, Option.bind_some, silent answer answered]
    cases call.at? id <;> rfl

theorem result?_of_asked {response : Response}
    (answered : Exchange.response ⟨room, request⟩ = .ok response) (id : Text) :
    Exchange.result? id ⟨room, request⟩ = (call.at? id).bind response.result? := by
  rw [Exchange.result?, (Request.means_of_action asked).1, answered]

end Asked

theorem result?_of_isQuiet (quiet : call.isQuiet = true) (response : Response) (id : Text) :
    (call.at? id).bind response.result? = none := by
  cases call with
  | openTable | listTables => rfl
  | ofTable own call =>
    rw [Call.at?]
    split
    · cases call with
      | read | recent | latest | latestText => rfl
      | _ => exact nomatch quiet
    · rfl

theorem fulfils_of_ne (asked : request.action room.registry = .ok (call, action)) {other : Call}
    (apart : call ≠ other) : Exchange.fulfils other ⟨room, request⟩ = false := by
  cases answered : Exchange.response ⟨room, request⟩ with
  | ok response =>
    rw [fulfils_of_asked asked answered, beq_eq_false_iff_ne.mpr apart, Bool.false_and]
  | error fault => exact fulfils_of_status (refused_of_fault answered) other

theorem opened?_of_ne (asked : request.action room.registry = .ok (call, action))
    (apart : call ≠ .openTable) : Exchange.opened? ⟨room, request⟩ = none := by
  rw [Exchange.opened?, (Request.means_of_action asked).1]
  split
  next called _ => exact absurd (Except.ok.inj called) apart
  · rfl

/-- A quiet call makes a move that tells no roll and no bare status. -/
theorem makes_of_isQuiet (quiet : call.isQuiet = true)
    (asked : request.action room.registry = .ok (call, action)) {move : Move σ}
    (moves : room.registry.Moves move (room.perform action).2.registry)
    (sendable : ¬request.FailsLate room → move.IsSendable)
    (opened : ¬request.FailsLate room → Exchange.opened? ⟨room, request⟩ = move.opened?)
    (still : ∀ id, move.clears id = false ∧ move.closes id = false ∧ move.roll? id = none)
    (silent : ∀ answer, (room.perform action).1 = .ok answer → answer.roll? = none) :
    Makes ⟨room, request⟩ move where
  moves := by rw [after_of_asked asked]; exact moves
  clears := by
    intro id
    have apart : call ≠ .ofTable id .clear := by
      rintro rfl
      exact nomatch quiet
    rw [Exchange.clears, fulfils_of_ne asked apart, (still id).1]
  closes := by
    intro id
    have apart : call ≠ .ofTable id .close := by
      rintro rfl
      exact nomatch quiet
    rw [Exchange.closes, fulfils_of_ne asked apart, (still id).2.1]
  sendable := sendable
  opened? := opened
  roll? := by
    intro _ id
    rw [roll?_of_silent asked silent, (still id).2.2]
  result? := by
    intro _ id
    rw [(still id).2.2]
    cases answered : Exchange.response ⟨room, request⟩ with
    | ok response => rw [result?_of_asked asked answered, result?_of_isQuiet quiet]; rfl
    | error fault => exact result?_of_status (refused_of_fault answered) id

section Opening

variable {name : Text} {capacity : Option Int}
  (asked : request.action room.registry = .ok (.openTable, .create name capacity none))
include asked

theorem refused_of_not_opens (refused : ¬History.Opens (room.registry.granted capacity)) :
    ∀ response, Exchange.response ⟨room, request⟩ = .ok response → 300 ≤ response.status := by
  intro response answered
  obtain ⟨fault, created⟩ := Registry.exists_fault_of_create refused
  have failed : (room.perform (.create name capacity none)).1 = .error fault := by
    rw [Room.perform, Room.create, created]
    rfl
  rw [Exchange.response, handle_fault asked failed] at answered
  have high := Fault.status_of_dispatched answered
  omega

/-- An opening is answered with the table that it opens, or it is not a success. -/
theorem response_of_opening :
    Exchange.response ⟨room, request⟩ =
        .ok (.json 201 (room.registry.newest name capacity none).summary.document) ∨
      ∀ response, Exchange.response ⟨room, request⟩ = .ok response → 300 ≤ response.status := by
  by_cases opens : History.Opens (room.registry.granted capacity)
  · exact .inl (congrArg Prod.fst (handle_create asked opens))
  · exact .inr (refused_of_not_opens asked opens)

theorem opened?_of_opening (answered : Exchange.response ⟨room, request⟩ =
      .ok (.json 201 (room.registry.newest name capacity none).summary.document)) :
    Exchange.opened? ⟨room, request⟩ = some (room.registry.newest name capacity none).id := by
  rw [Exchange.opened?, (Request.means_of_action asked).1, answered]
  exact congrArg some String.toList_ofList

theorem makes_of_openTable : ∃ move, Makes ⟨room, request⟩ move := by
  by_cases opens : History.Opens (room.registry.granted capacity)
  · have created := Registry.create_of_opens opens name none
    refine ⟨.opened (room.registry.newest name capacity none), makes_of_isQuiet rfl asked ?_
      (fun _ => History.fits_toNat opens) ?_ (fun _ => ⟨rfl, rfl, rfl⟩) ?_⟩
    · rw [Room.perform, Room.create, created]
      exact .opened opens
    · exact fun _ => opened?_of_opening asked (congrArg Prod.fst (handle_create asked opens))
    · intro answer told
      rw [Room.perform, Room.create, created] at told
      cases told
      rfl
  · obtain ⟨fault, created⟩ := Registry.exists_fault_of_create opens
    refine ⟨.rest, makes_of_isQuiet rfl asked ?_ (fun _ => trivial) ?_
      (fun _ => ⟨rfl, rfl, rfl⟩) ?_⟩
    · rw [Room.perform, Room.create, created]
      exact .rest rfl (Nat.le_succ _)
    · exact fun _ => opened?_of_status (refused_of_not_opens asked opens)
    · intro answer told
      rw [Room.perform, Room.create, created] at told
      cases told

end Opening

theorem makes_rest_of_asked (asked : request.action room.registry = .ok (call, action))
    (quiet : call.isQuiet = true) (apart : call ≠ .openTable)
    (kept : (room.perform action).2 = room)
    (silent : ∀ answer, (room.perform action).1 = .ok answer → answer.roll? = none) :
    Makes ⟨room, request⟩ .rest :=
  makes_of_isQuiet quiet asked (by rw [kept]; exact moves_refl _) (fun _ => trivial)
    (fun _ => opened?_of_ne asked apart) (fun _ => ⟨rfl, rfl, rfl⟩) silent

section OfTable

variable {id : Text} {place : Nat}

/-- A move that is told by a bare status. -/
theorem makes_of_bare {asks : TableCall}
    (asked : request.action room.registry = .ok (.ofTable id asks, action))
    (answered : Exchange.response ⟨room, request⟩ = .ok (.bare 204)) {move : Move σ}
    (moves : room.registry.Moves move (room.perform action).2.registry)
    (tells : ∀ other, move.clears other = (id == other && asks == .clear) ∧
      move.closes other = (id == other && asks == .close) ∧ move.roll? other = none)
    (opens : move.opened? = none) (sendable : move.IsSendable)
    (silent : ∀ answer, (room.perform action).1 = .ok answer → answer.roll? = none) :
    Makes ⟨room, request⟩ move where
  moves := by rw [after_of_asked asked]; exact moves
  clears := by
    intro other
    rw [Exchange.clears, fulfils_of_asked asked answered, Call.beq_ofTable, (tells other).1]
    exact Bool.and_true _
  closes := by
    intro other
    rw [Exchange.closes, fulfils_of_asked asked answered, Call.beq_ofTable, (tells other).2.1]
    exact Bool.and_true _
  sendable := fun _ => sendable
  opened? := fun _ => (opened?_of_ne asked nofun).trans opens.symm
  roll? := by
    intro _ other
    rw [roll?_of_silent asked silent, (tells other).2.2]
  result? := by
    intro _ other
    have none : (Response.bare 204).result? = fun _ => none := by
      funext call
      cases call <;> rfl
    rw [result?_of_asked asked answered, none, (tells other).2.2]
    cases Call.at? other _ <;> rfl

theorem makes_closed (asked : request.action room.registry = .ok (.ofTable id .close, .delete id)) :
    Makes ⟨room, request⟩ (.closed id) := by
  refine makes_of_bare asked ?_ (.closed id) (fun other => ?_) rfl trivial fun answer told => ?_
  · rw [response_of_asked asked]
    rfl
  · exact ⟨(Bool.and_false _).symm, (Bool.and_true _).symm, rfl⟩
  · cases told
    rfl

theorem makes_cleared
    (asked : request.action room.registry = .ok (.ofTable id .clear, .clear place))
    (found : room.registry.placeOf? id = some place) : Makes ⟨room, request⟩ (.cleared id) := by
  obtain ⟨table, here, _⟩ := Registry.exists_of_placeOf? found
  have there : room.table? place = some table := here
  have answered : (room.perform (.clear place)).1 = .ok .cleared := by
    rw [Room.perform, Room.asking, there]
  have cleared : (room.perform (.clear place)).2.registry =
      room.registry.put place { table with history := table.history.clear } := by
    rw [Room.perform, Room.clear, there]
    rfl
  refine makes_of_bare asked ?_ ?_ (fun other => ?_) rfl trivial fun answer told => ?_
  · rw [response_of_asked asked, answered]
    rfl
  · rw [cleared]
    exact .cleared found here
  · exact ⟨(Bool.and_true _).symm, (Bool.and_false _).symm, rfl⟩
  · rw [answered] at told
    cases told
    rfl

variable {asks : TableCall} {wanted : RollRequest} {options : RollOptions} {roll : Roll}

/-- An answer with a roll that can be sent goes out with the roll. -/
theorem response_of_told {answer : Answer} (about : answer.roll? = some roll)
    (admits : asks.admits wanted = true)
    (shape : if wanted.isCommand then ∃ reply, answer = .replied reply
      else ∃ roll, answer = .rolled roll)
    (writable : (roll.document .camel).isWritable = true) :
    ∃ response, (respond (.ofTable id asks) (.ok answer)).bind Response.sendable = .ok response ∧
      response.result? asks = some (roll.document .camel) := by
  cases command : wanted.isCommand with
  | false =>
    rw [command] at shape
    obtain ⟨told, rfl⟩ := shape
    cases about
    refine ⟨.json 201 (roll.document .camel), ?_, ?_⟩
    · exact if_pos writable
    · cases asks with
      | roll | check => rfl
      | command =>
        cases wanted with
        | command => cases command
        | _ => cases admits
      | _ => cases wanted <;> cases admits
  | true =>
    rw [command] at shape
    obtain ⟨reply, rfl⟩ := shape
    have about : reply.roll = some roll := about
    have sends := (Reply.isWritable_document about).trans writable
    refine ⟨.json 200 reply.document, if_pos sends, ?_⟩
    cases wanted with
    | command =>
      cases asks with
      | command =>
        have result : reply.document = .object [("reply", asText reply.text),
            ("result", roll.document .camel)] := by rw [Reply.document, about]; rfl
        rw [result]
        rfl
      | _ => cases admits
    | _ => cases command

/-- An answer without a roll goes out without a result. -/
theorem response_of_silent {answer : Answer} (silent : answer.roll? = none)
    (admits : asks.admits wanted = true)
    (shape : if wanted.isCommand then ∃ reply, answer = .replied reply
      else ∃ roll, answer = .rolled roll) :
    ∃ response, (respond (.ofTable id asks) (.ok answer)).bind Response.sendable = .ok response ∧
      response.result? asks = none := by
  cases command : wanted.isCommand with
  | false =>
    rw [command] at shape
    obtain ⟨told, rfl⟩ := shape
    cases silent
  | true =>
    rw [command] at shape
    obtain ⟨reply, rfl⟩ := shape
    have silent : reply.roll = none := silent
    have result : reply.document = .object [("reply", asText reply.text), ("result", .null)] := by
      rw [Reply.document, silent]
      rfl
    refine ⟨.json 200 reply.document, if_pos (by rw [result]; rfl), ?_⟩
    rw [result]
    cases asks <;> rfl

theorem ne_of_admits (admits : asks.admits wanted = true) :
    asks ≠ .clear ∧ asks ≠ .close := by
  cases asks with
  | roll | check | command => exact ⟨nofun, nofun⟩
  | _ => cases wanted <;> cases admits

section Requested

variable (admits : asks.admits wanted = true)
  (asked : request.action room.registry = .ok (.ofTable id asks, wanted.action place options))
include admits asked

theorem fulfils_of_requested (other : Text) :
    Exchange.clears other ⟨room, request⟩ = false ∧
      Exchange.closes other ⟨room, request⟩ = false := by
  obtain ⟨clear, close⟩ := ne_of_admits admits
  exact ⟨fulfils_of_ne asked fun same => clear (Call.ofTable.inj same).2,
    fulfils_of_ne asked fun same => close (Call.ofTable.inj same).2⟩

theorem makes_rest_of_idle
    (idle : ∀ table roll source, ¬room.Rolls place wanted table roll source) :
    Makes ⟨room, request⟩ .rest := by
  obtain ⟨answer, source, performed, silent⟩ := Room.perform_idle options idle
  have response := response_of_asked asked
  rw [performed] at response
  exact
    { moves := by
        rw [after_of_asked asked, performed]
        exact .rest (Room.kept_withSource place source room).records
          (Nat.le_of_eq (Room.attempts_withSource place source room).symm)
      clears := fun other => (fulfils_of_requested admits asked other).1
      closes := fun other => (fulfils_of_requested admits asked other).2
      sendable := fun _ => trivial
      opened? := fun _ => opened?_of_ne asked nofun
      roll? := fun _ other => roll?_of_silent asked (by rw [performed]; exact silent) other
      result? := by
        intro _ other
        cases answer with
        | error fault =>
          refine result?_of_status (fun found answered => ?_) other
          have failed : (room.perform (wanted.action place options)).1 = .error fault := by
            rw [performed]
          rw [Exchange.response, handle_fault asked failed] at answered
          have high := Fault.status_of_dispatched answered
          omega
        | ok told =>
          have answered : (room.perform (wanted.action place options)).1 = .ok told := by
            rw [performed]
          obtain ⟨found, responds, none⟩ := response_of_silent (silent told rfl) admits
            (Room.shape_of_answer answered)
          rw [result?_of_asked asked (response.trans responds), Call.at?]
          split
          · exact none
          · rfl }

theorem makes_rolled {table : Table σ} {source : σ}
    (found : room.registry.placeOf? id = some place)
    (rolls : room.Rolls place wanted table roll source) :
    Makes ⟨room, request⟩ (.rolled id roll) := by
  obtain ⟨pushed, told⟩ := Room.perform_rolls options rolls
  have writable (onTime : ¬request.FailsLate room) :
      (roll.document .camel).isWritable = true := by
    by_contra long
    exact onTime ⟨_, _, asked, _, _, _, _, _, _, rfl, rolls, Bool.eq_false_iff.mpr long⟩
  have here : room.registry.tables[place]? = some table := by
    obtain ⟨_, _, here, _⟩ := rolls
    exact here
  -- A roll that cannot be sent fails late, so nothing is said of what its response tells.
  exact
    { moves := by
        rw [after_of_asked asked, pushed]
        exact .rolled found here
      clears := fun other => (fulfils_of_requested admits asked other).1
      closes := fun other => (fulfils_of_requested admits asked other).2
      sendable := fun onTime => ⟨writable onTime, Room.isWritable_of_rolls rolls (writable onTime)⟩
      opened? := fun _ => opened?_of_ne asked nofun
      roll? := by
        intro onTime other
        obtain ⟨answer, answered⟩ := Room.answer_of_rolls options rolls
          (writable onTime)
        rw [answered] at told
        have told : answer.roll? = some roll := told
        rw [roll?_of_asked asked, answered]
        simp only [Except.toOption, Option.bind_some, told, Call.at?, Move.roll?]
        split <;> rfl
      result? := by
        intro onTime other
        obtain ⟨answer, answered⟩ := Room.answer_of_rolls options rolls
          (writable onTime)
        rw [answered] at told
        obtain ⟨response, responds, result⟩ := response_of_told told admits
          (Room.shape_of_answer answered) (writable onTime)
        rw [result?_of_asked asked (by rw [response_of_asked asked, answered]; exact responds),
          Call.at?, Move.roll?]
        split
        · exact result
        · rfl }

end Requested

end OfTable

/-- Every exchange makes a move. -/
theorem exists_makes (exchange : Exchange σ) : ∃ move, exchange.Makes move := by
  obtain ⟨room, request⟩ := exchange
  cases asked : request.action room.registry with
  | error response => exact ⟨.rest, makes_rest_of_refused asked⟩
  | ok found =>
  obtain ⟨call, action⟩ := found
  have means := (Request.means_of_action asked).2
  cases means with
  | openTable name capacity => exact makes_of_openTable asked
  | listTables | read =>
    refine ⟨.rest, makes_rest_of_asked asked rfl Call.noConfusion rfl fun _ told => ?_⟩
    cases told
    rfl
  | recent | latest | latestText =>
    refine ⟨.rest, makes_rest_of_asked asked rfl Call.noConfusion rfl fun answer told => ?_⟩
    rw [Room.perform, Room.asking] at told
    split at told
    · cases told
    · cases told
      rfl
  | close found => exact ⟨_, makes_closed asked⟩
  | clear found => exact ⟨_, makes_cleared asked found⟩
  | @request id place call wanted options found admits =>
    by_cases idle : ∀ table roll source, ¬room.Rolls place wanted table roll source
    · exact ⟨.rest, makes_rest_of_idle admits asked idle⟩
    · simp only [not_forall, not_not] at idle
      obtain ⟨table, roll, source, rolls⟩ := idle
      exact ⟨_, makes_rolled admits asked found rolls⟩

end Exchange

end Service

end Tabletop
