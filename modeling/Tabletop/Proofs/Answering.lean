import Tabletop.Proofs.Course
import Tabletop.Service

/-!
# Answering a request

A request that is not turned down comes to one action of the room, and its response is written from
the answer. Of the actions that a request can come to, only a roll, a clearing, an opening and a
closing change the room; what a roll changes is said here, up to the channel. A roll whose numbers
can all be written has a response, and any other roll has none.
-/
namespace Tabletop

namespace Form

namespace Checked

variable {α β : Type}

/-- Whatever is made of a value that passed. -/
theorem forall_map {P : β → Prop} {f : α → β} {checked : Checked α} (each : ∀ a, P (f a)) :
    ∀ b, f <$> checked = good b → P b := by
  rintro b h
  cases checked with
  | good a => exact good.inj h ▸ each a
  | bad complaints => exact nomatch h

theorem forall_seq {P : β → Prop} {read : Checked (α → β)} {checked : Checked α}
    (each : ∀ f, read = good f → ∀ a, P (f a)) : ∀ b, read <*> checked = good b → P b := by
  rintro b h
  cases read with
  | good f =>
    cases checked with
    | good a => exact good.inj h ▸ each f rfl a
    | bad complaints => exact nomatch h
  | bad complaints => cases checked <;> exact nomatch h

theorem below_eq_good {step : Step} {checked : Checked α} {a : α}
    (h : checked.below step = good a) : checked = good a := by
  cases checked with
  | good b => exact h
  | bad complaints => exact nomatch h

end Checked

theorem forall_bodyOf {α : Type} {P : α → Prop} {read : Document.Fields → Checked α}
    (document : Option Document) (each : ∀ fields a, read fields = .good a → P a) :
    ∀ a, bodyOf read document = .good a → P a := by
  intro a h
  unfold bodyOf at h
  split at h
  · exact nomatch h
  next fields => exact each fields a (Checked.below_eq_good h)
  · exact nomatch h

end Form

open Form Checked

/-- The call asks for a roll of that sort. -/
def TableCall.admits : TableCall → RollRequest → Bool
  | .roll, .roll _ | .check, .check _ | .command, .command _ => true
  | _, _ => false

namespace Call

variable {σ : Type}

/-- What a call comes to in a registry. -/
inductive Means (registry : Registry σ) : Call → Action → Prop
  | openTable (name : Text) (capacity : Option Int) :
    Means registry .openTable (.create name capacity none)
  | listTables : Means registry .listTables .all
  | read {id : Text} {place : Nat} (found : registry.placeOf? id = some place) :
    Means registry (.ofTable id .read) (.find id)
  | close {id : Text} {place : Nat} (found : registry.placeOf? id = some place) :
    Means registry (.ofTable id .close) (.delete id)
  | request {id : Text} {place : Nat} {call : TableCall} (asked : RollRequest)
    (options : RollOptions) (found : registry.placeOf? id = some place)
    (admits : call.admits asked = true) :
    Means registry (.ofTable id call) (asked.action place options)
  | recent {id : Text} {place : Nat} (limit : Int) (found : registry.placeOf? id = some place) :
    Means registry (.ofTable id .recent) (.recent place limit)
  | latest {id : Text} {place : Nat} (found : registry.placeOf? id = some place) :
    Means registry (.ofTable id .latest) (.last place)
  | latestText {id : Text} {place : Nat} (found : registry.placeOf? id = some place) :
    Means registry (.ofTable id .latestText) (.last place)
  | clear {id : Text} {place : Nat} (found : registry.placeOf? id = some place) :
    Means registry (.ofTable id .clear) (.clear place)

/-- What is asked of a table comes to something only if the table is open. -/
theorem Means.exists_place {registry : Registry σ} {id : Text} {call : TableCall} {action : Action}
    (means : Means registry (.ofTable id call) action) :
    ∃ place, registry.placeOf? id = some place := by
  cases means <;> exact ⟨_, ‹_›⟩

section Forms

variable (registry : Registry σ) {id : Text} {place : Nat} (fields : Document.Fields)

theorem means_of_create? :
    ∀ action, Action.create? fields = .good action → Means registry .openTable action :=
  forall_seq <| forall_map .openTable

variable (found : registry.placeOf? id = some place)
include found

theorem means_of_roll? :
    ∀ action, Action.roll? place fields = .good action →
      Means registry (.ofTable id .roll) action :=
  forall_seq <| forall_seq <| forall_seq <| forall_map fun expression send flavor speaker =>
    .request (.roll expression) ⟨send, flavor, speaker⟩ found rfl

theorem means_of_check? : ∀ action, Action.check? place fields = .good action →
    Means registry (.ofTable id .check) action :=
  forall_seq <| forall_seq <| forall_seq <| forall_seq <| forall_seq <|
    forall_map fun ability bonus advantage disadvantage send speaker =>
      .request (.check ⟨ability, bonus, Edge.ofFlags advantage disadvantage⟩)
        ⟨send, none, speaker⟩ found rfl

theorem means_of_command? : ∀ action, Action.command? place fields = .good action →
    Means registry (.ofTable id .command) action :=
  forall_seq <| forall_map fun text speaker =>
    .request (.command text) ⟨true, none, speaker⟩ found rfl

theorem means_of_recent? (query : Query) : ∀ action, Action.recent? place query = .good action →
    Means registry (.ofTable id .recent) action := by
  rintro action h
  unfold Action.recent? at h
  split at h
  · cases h
    exact .recent 10 found
  · exact forall_map (fun limit => .recent limit found) action h

theorem means_of_ofTableCall {query : Query} {document : Option Document} {call : TableCall}
    {action : Action} (h : Action.ofTableCall id place query document call = .good action) :
    Means registry (.ofTable id call) action := by
  cases call with
  | roll => exact forall_bodyOf document (means_of_roll? registry · found) action h
  | check => exact forall_bodyOf document (means_of_check? registry · found) action h
  | command => exact forall_bodyOf document (means_of_command? registry · found) action h
  | recent => exact means_of_recent? registry found query action h
  | read | close | latest | latestText | clear =>
    cases h
    constructor
    exact found

end Forms

theorem eq_good_of_unlessGood {checked : Checked Action} {action : Action}
    (h : Response.unlessGood checked = .ok action) : checked = .good action := by
  cases checked with
  | good found => exact congrArg good (Except.ok.inj h)
  | bad complaints => exact nomatch h

theorem means_of_actionOf {registry : Registry σ} {call : Call} {query : Query}
    {document : Option Document} {action : Action}
    (h : Request.actionOf call query document registry = .ok action) :
    Means registry call action := by
  cases call with
  | openTable =>
    exact forall_bodyOf document (fun fields => means_of_create? registry fields) action
      (eq_good_of_unlessGood h)
  | listTables =>
    cases h
    exact .listTables
  | ofTable id call =>
    simp only [Request.actionOf] at h
    split at h
    · exact nomatch h
    next place found => exact means_of_ofTableCall registry found (eq_good_of_unlessGood h)

end Call

namespace Request

variable {σ : Type} {request : Request} {call : Call} {registry : Registry σ}

/-- The document that a call finds with a request. -/
def found (request : Request) (call : Call) : Except Response (Option Document) :=
  if call.hasBody then document? request.body else .ok none

/-- The body, where one is looked for, is a document or empty. -/
def IsReadable (request : Request) : Prop :=
  ∀ call, request.call = .ok call → ∃ document, request.found call = .ok document

theorem action_eq (request : Request) (registry : Registry σ) :
    request.action registry = request.call.bind fun call =>
      (request.found call).bind fun document =>
        (actionOf call request.query document registry).map (call, ·) := by
  unfold action found
  cases request.call with
  | error response => rfl
  | ok call =>
    simp only [bind, Except.bind, pure, Except.pure, Except.map]
    by_cases body : call.hasBody = true
    · simp only [body, if_true]
    · simp only [body]
      rfl

theorem action_of_found {document : Option Document} (called : request.call = .ok call)
    (read : request.found call = .ok document) (registry : Registry σ) :
    request.action registry = (actionOf call request.query document registry).map (call, ·) := by
  rw [action_eq, called]
  simp only [Except.bind, read]

theorem means_of_action {action : Action} (h : request.action registry = .ok (call, action)) :
    request.call = .ok call ∧ Call.Means registry call action := by
  rw [action_eq] at h
  cases called : request.call with
  | error response => rw [called] at h; exact nomatch h
  | ok asked =>
  cases read : request.found asked with
  | error response => simp only [called, Except.bind, read, reduceCtorEq] at h
  | ok document =>
  simp only [called, Except.bind, read] at h
  obtain ⟨found, meant, same⟩ := Room.map_eq_ok h
  cases same
  exact ⟨rfl, Call.means_of_actionOf meant⟩

/-- No table is open under the id. -/
theorem action_of_unknown {id : Text} {asked : TableCall}
    (called : request.call = .ok (.ofTable id asked)) (readable : request.IsReadable)
    (unknown : registry.placeOf? id = none) : request.action registry = .error .noTable := by
  obtain ⟨document, read⟩ := readable _ called
  rw [action_of_found called read]
  simp only [actionOf, unknown, Except.map]

end Request

theorem Registry.exists_of_placeOf? {σ : Type} {registry : Registry σ} {id : Text} {place : Nat}
    (found : registry.placeOf? id = some place) :
    ∃ table, registry.tables[place]? = some table ∧ table.listed = true ∧ table.id = id := by
  obtain ⟨inside, bears, _⟩ := List.findIdx?_eq_some_iff_getElem.mp found
  rw [Registry.bears, Bool.and_eq_true, beq_iff_eq] at bears
  exact ⟨_, List.getElem?_eq_getElem inside, bears⟩

/-- The number of entries that a history can be opened for can be written. -/
theorem History.fits_toNat {capacity : Int} (opens : Opens capacity) :
    Numeral.fits capacity.toNat = true := by
  have small : capacity.toNat < 10 ^ 19 := by
    have bound := opens.2
    rw [maxCapacity] at bound
    omega
  exact Numeral.fits_of_lt small (by decide)

namespace Registry

variable {σ : Type} {registry : Registry σ} {capacity : Option Int}

/-- The capacity of a table that is opened with the one that is asked for, if any. -/
def granted (capacity : Option Int) (registry : Registry σ) : Int :=
  capacity.getD registry.defaults.capacity

/-- The table that the next attempt opens. -/
def newest (name : Text) (capacity : Option Int) (limits : Option Limits)
    (registry : Registry σ) : Table σ where
  id := idOf (registry.attempts + 1)
  name := name
  limits := limits.getD registry.defaults.limits
  history := ⟨(registry.granted capacity).toNat, []⟩
  source := registry.defaults.source (registry.attempts + 1)
  listed := true

/-- The table that the next attempt opens under an id. -/
def opening (id name : Text) (capacity : Option Int) (limits : Option Limits)
    (registry : Registry σ) : Table σ :=
  { registry.newest name capacity limits with id := id }

theorem createUnder_of_opens (opens : History.Opens (registry.granted capacity)) (id name : Text)
    (limits : Option Limits) :
    registry.createUnder id name capacity limits =
      (.ok (registry.opening id name capacity limits),
        { registry with
          tables := registry.tables ++ [registry.opening id name capacity limits]
          attempts := registry.attempts + 1 }) := by
  rw [granted] at opens
  simp only [createUnder, History.open_of_opens opens]
  rfl

theorem createUnder_of_error {fault : Fault}
    (refused : History.open? (α := Roll) (registry.granted capacity) = .error fault)
    (id name : Text) (limits : Option Limits) :
    registry.createUnder id name capacity limits =
      (.error fault, { registry with attempts := registry.attempts + 1 }) := by
  rw [granted] at refused
  simp only [createUnder, refused]

/-- An attempt either opens the table or leaves all tables alone. -/
theorem exists_fault_of_createUnder (refused : ¬History.Opens (registry.granted capacity)) :
    ∃ fault, ∀ id name limits, registry.createUnder id name capacity limits =
      (.error fault, { registry with attempts := registry.attempts + 1 }) := by
  obtain ⟨fault, failed⟩ := History.exists_fault_of_not_opens (α := Roll) refused
  exact ⟨fault, createUnder_of_error failed⟩

theorem create_of_opens (opens : History.Opens (registry.granted capacity)) (name : Text)
    (limits : Option Limits) :
    registry.create name capacity limits =
      (.ok (registry.newest name capacity limits),
        { registry with
          tables := registry.tables ++ [registry.newest name capacity limits]
          attempts := registry.attempts + 1 }) :=
  createUnder_of_opens opens _ name limits

theorem exists_fault_of_create (refused : ¬History.Opens (registry.granted capacity)) :
    ∃ fault, ∀ name limits, registry.create name capacity limits =
      (.error fault, { registry with attempts := registry.attempts + 1 }) := by
  obtain ⟨fault, failed⟩ := exists_fault_of_createUnder refused
  exact ⟨fault, failed _⟩

end Registry

theorem TableSummary.isWritable_document (table : TableSummary) :
    table.document.isWritable = (Numeral.fits table.capacity && Numeral.fits table.size) := by
  simp [document, Document.isWritable, Document.fieldsWritable, asText]

theorem Reply.isWritable_document {reply : Reply} {roll : Roll} (about : reply.roll = some roll) :
    reply.document.isWritable = (roll.document .camel).isWritable := by
  simp [document, about, orNull, Document.isWritable, Document.fieldsWritable, asText]

namespace Roll

/-- A roll that can be sent has sums that can be written. -/
theorem fits_of_document {spelling : Spelling} {roll : Roll}
    (writable : (roll.document spelling).isWritable = true) :
    Numeral.fits roll.flatSum = true ∧ Numeral.fits roll.total = true := by
  simp only [document, Document.isWritable, Document.fieldsWritable, Bool.and_eq_true] at writable
  exact ⟨writable.2.2.1, writable.2.2.2.1⟩

end Roll

namespace Room

variable {σ : Type} [DrawSource σ] {place : Nat} {options : RollOptions} {request : RollRequest}
  {room : Room σ} {table : Table σ} {roll : Roll} {source : σ}

/-- The table at the place rolls what is asked for. The source is what the draws leave. -/
def Rolls (place : Nat) (request : RollRequest) (table : Table σ) (roll : Roll) (source : σ)
    (room : Room σ) : Prop :=
  ∃ order, request.order? = .ok (some order) ∧ room.table? place = some table ∧
    outcome table order = (.ok roll, source)

/-- A request that comes to no roll changes a source at most. -/
theorem perform_idle (options : RollOptions)
    (idle : ∀ table roll source, ¬room.Rolls place request table roll source) :
    ∃ answer source, room.perform (request.action place options) =
        (answer, room.withSource place source) ∧
      ∀ found, answer = .ok found → found.roll? = none := by
  obtain ⟨kept, same⟩ := exists_withSource place room
  cases ordered : request.order? with
  | error fault =>
    exact ⟨.error fault, kept, by rw [same]; exact perform_refused ordered,
      fun _ told => nomatch told⟩
  | ok order? =>
  cases order? with
  | none =>
    obtain ⟨answer, performed, silent⟩ :
        ∃ answer, room.perform (request.action place options) = (.ok answer, room) ∧
          answer.roll? = none := perform_usage ordered
    exact ⟨.ok answer, kept, by rw [same]; exact performed,
      fun _ told => Except.ok.inj told ▸ silent⟩
  | some order =>
  obtain ⟨reply, _, performed⟩ := perform_ordered (σ := σ) ordered
  cases found : room.table? place with
  | none =>
    refine ⟨.error .noTable, kept, ?_, fun _ told => nomatch told⟩
    rw [same, performed, fill_missing found]
    rfl
  | some table =>
  cases rolled : outcome table order with
  | mk result source =>
  cases result with
  | ok roll => exact absurd ⟨order, ordered, found, rolled⟩ (idle table roll source)
  | error fault =>
    refine ⟨.error fault, source, ?_, fun _ told => nomatch told⟩
    rw [performed, fill_fault found rolled]
    rfl

/-- A roll is remembered, and it is what the answer tells unless it cannot be told. -/
theorem perform_rolls (options : RollOptions)
    (rolls : room.Rolls place request table roll source) :
    (room.perform (request.action place options)).2.registry =
        room.registry.put place
          { table with source := source, history := table.history.push roll } ∧
      match (room.perform (request.action place options)).1 with
      | .ok answer => answer.roll? = some roll
      | .error fault => fault = .numeral .tooLongToWrite := by
  obtain ⟨order, ordered, found, rolled⟩ := rolls
  obtain ⟨reply, replies, performed⟩ := perform_ordered (σ := σ) ordered
  rw [performed, fill_filled found]
  simp only [Table.filled, rolled, registry_publish?]
  refine ⟨rfl, ?_⟩
  by_cases mute : (options.send && !roll.isWritable) = true
  · simp only [mute, if_true, Except.bind]
  · simp only [mute, Bool.false_eq_true, if_false, Except.bind]
    cases loud : request.isCommand && !Numeral.fits roll.total with
    | true => rw [replies.mute roll loud]
    | false =>
      obtain ⟨answer, replied, about⟩ := replies.told roll loud
      rw [replied]
      exact about

theorem isWritable_of_rolls (rolls : room.Rolls place request table roll source)
    (writable : (roll.document .camel).isWritable = true) : roll.isWritable = true := by
  obtain ⟨order, _, _, rolled⟩ := rolls
  obtain ⟨flat, total⟩ := Roll.fits_of_document writable
  rw [isWritable_of_outcome rolled, flat, total]
  rfl

/-- A roll that can be sent is told. -/
theorem answer_of_rolls (options : RollOptions)
    (rolls : room.Rolls place request table roll source)
    (writable : (roll.document .camel).isWritable = true) :
    ∃ answer, (room.perform (request.action place options)).1 = .ok answer := by
  have line := isWritable_of_rolls rolls writable
  have total := (Roll.fits_of_document writable).2
  obtain ⟨order, ordered, found, rolled⟩ := rolls
  obtain ⟨reply, replies, performed⟩ := perform_ordered (σ := σ) ordered
  obtain ⟨answer, replied, _⟩ := replies.told roll (by rw [total]; exact Bool.and_false _)
  refine ⟨answer, ?_⟩
  rw [performed, fill_filled found]
  simp only [Table.filled, rolled, line, Bool.not_true, Bool.and_false, Bool.false_eq_true,
    if_false]
  exact replied

/-- A command is answered with a reply, and any other request with its roll. -/
theorem shape_of_answer {answer : Answer}
    (told : (room.perform (request.action place options)).1 = .ok answer) :
    if request.isCommand then ∃ reply, answer = .replied reply
    else ∃ roll, answer = .rolled roll := by
  cases request with
  | roll | check | damage =>
    obtain ⟨roll, _, rfl⟩ := map_eq_ok told
    exact ⟨roll, rfl⟩
  | command =>
    obtain ⟨reply, _, rfl⟩ := map_eq_ok told
    exact ⟨reply, rfl⟩

end Room

namespace Service

variable {σ : Type} [DrawSource σ] {request : Request} {room : Room σ} {call : Call}
  {action : Action}

omit [DrawSource σ] in
/-- No resource has a method for its head alone. -/
theorem send_of_call (called : request.call = .ok call) (response : Response) :
    send request response = response.sendable := by
  have other : request.methodName ≠ "HEAD" := by
    intro head
    simp only [Request.call, head] at called
    split at called
    · exact nomatch called
    next resource _ =>
      have none : Call.of? resource "HEAD" = none := by cases resource <;> rfl
      rw [none] at called
      exact nomatch called
  simp only [send, other, if_false]
  cases response.sendable <;> rfl

theorem handle_refused {response : Response}
    (refused : request.action room.registry = .error response) :
    handle request room = (send request response, room) := by
  rw [handle, refused]

theorem handle_asked (asked : request.action room.registry = .ok (call, action)) :
    handle request room =
      ((respond call (room.perform action).1).bind Response.sendable,
        (room.perform action).2) := by
  have sent : send request = Response.sendable :=
    funext (send_of_call (Request.means_of_action asked).1)
  rw [handle, asked]
  simp only [sent]
  rfl

/-- A table that is not open is not found, whatever is asked of it. -/
theorem handle_unknown {id : Text} {asked : TableCall}
    (called : request.call = .ok (.ofTable id asked)) (readable : request.IsReadable)
    (unknown : room.registry.placeOf? id = none) :
    handle request room = (.ok .noTable, room) := by
  rw [handle_refused (Request.action_of_unknown called readable unknown), send_of_call called]
  rfl

/-- The room after some requests in turn. -/
def serve (requests : List Request) (room : Room σ) : Room σ :=
  requests.foldl (fun room request => (handle request room).2) room

end Service

end Tabletop
