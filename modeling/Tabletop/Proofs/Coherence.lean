import Tabletop.Proofs.Ledger

/-!
# What the service tells about its tables

The service tells about an open table what was sent back for it before: its summary counts the
results, and its rolls are the latest of them. A table that was closed is never told about again.
-/
namespace Tabletop

theorem Document.isWritable_list (items : List Document) :
    (list items).isWritable = items.all isWritable := by
  rw [isWritable]
  induction items with
  | nil => rfl
  | cons item rest ih => rw [itemsWritable, ih, List.all_cons]

/-! ### Reading requests -/

namespace Request

variable {σ : Type} {request : Request} {registry : Registry σ} {id : Text} {place : Nat}

/-- How many rolls a request asks for, if it does so rightly. -/
def limit? (request : Request) : Option Int :=
  match request.query.reverse.lookup "limit" with
  | none => some 10
  | some value => (Form.wholeOfText value.toList).toOption

theorem recent?_of_limit? {limit : Int} (asked : request.limit? = some limit) (least : 1 ≤ limit)
    (most : limit ≤ 1000) : Action.recent? place request.query = .good (.recent place limit) := by
  cases found : request.query.reverse.lookup "limit" with
  | none =>
    rw [limit?, found] at asked
    cases asked
    rw [Action.recent?, found]
  | some value =>
    rw [limit?, found] at asked
    have whole : Form.wholeOf (.text value) = .ok limit := by
      have asked : (Form.wholeOfText value.toList).toOption = some limit := asked
      rw [Form.wholeOf]
      cases read : Form.wholeOfText value.toList with
      | error flaw => rw [read] at asked; cases asked
      | ok number => rw [read] at asked; exact congrArg _ (Option.some.inj asked)
    have within : Form.between (some 1) (some 1000) limit = .ok limit := by
      simp [Form.between, Int.not_lt.mpr least, Int.not_lt.mpr most]
    rw [Action.recent?, found]
    simp only [Form.wholeBetween, Form.judging, whole, bind, Except.bind, within]
    rfl

/-- A call of an open table that brings no body comes to its action. -/
theorem action_of_bodiless {call : TableCall} {action : Action}
    (called : request.call = .ok (.ofTable id call))
    (bodiless : (Call.ofTable id call).hasBody = false) (found : registry.placeOf? id = some place)
    (good : Action.ofTableCall id place request.query none call = .good action) :
    request.action registry = .ok (.ofTable id call, action) := by
  have read : request.found (.ofTable id call) = .ok none := by simp [Request.found, bodiless]
  rw [action_of_found called read, actionOf, found]
  simp only [good]
  rfl

theorem readable_of_bodiless {call : TableCall} (called : request.call = .ok (.ofTable id call))
    (bodiless : (Call.ofTable id call).hasBody = false) : request.IsReadable := by
  intro other same
  rw [called] at same
  cases same
  exact ⟨none, by simp [Request.found, bodiless]⟩

end Request

/-! ### What is told -/

theorem History.Recalls.isWritable_summary {σ : Type} {rolls : List Roll} {table : Table σ}
    (recalls : table.history.Recalls rolls) : table.summary.document.isWritable = true := by
  have short := recalls.sendable.short
  have size : Numeral.fits table.history.size = true := Numeral.fits_natCast.mpr
    (Nat.lt_of_le_of_lt recalls.sendable.size (Numeral.fits_natCast.mp short))
  rw [TableSummary.isWritable_document]
  simp only [Table.summary, short, size, Bool.and_self]

namespace Service

variable {σ : Type} [DrawSource σ] {request : Request} {room : Room σ} {call : Call}
  {action : Action} {id : Text} {table : Table σ} {rolls : List Roll}

/-- An answer that changes nothing goes out as it is if it can be sent. -/
theorem handle_told {answer : Answer} {response : Response}
    (asked : request.action room.registry = .ok (call, action))
    (performed : room.perform action = (.ok answer, room))
    (responds : Response.ofAnswer call.isPlain answer = .ok response)
    (sends : response.sendable = .ok response) : handle request room = (.ok response, room) := by
  rw [handle_asked asked, performed, respond, responds]
  exact congrArg (·, room) sends

/-- The tables are told in the order of opening. -/
theorem handle_listTables (called : request.call = .ok .listTables)
    (writable : ∀ table ∈ room.registry.all, table.summary.document.isWritable = true) :
    handle request room = (.ok (.json 200
      (.list (room.registry.all.map fun table => table.summary.document))), room) := by
  have asked : request.action room.registry = .ok (.listTables, .all) := by
    have read : request.found .listTables = .ok none := rfl
    rw [Request.action_of_found called read]
    rfl
  refine handle_told asked rfl (congrArg _ (congrArg _ (congrArg _ List.map_map))) (if_pos ?_)
  rw [Document.isWritable_list, List.all_map, List.all_eq_true]
  exact writable

section OpenTable

variable (found : room.registry.find? id = some table) (recalls : table.history.Recalls rolls)
include found recalls

theorem handle_read (called : request.call = .ok (.ofTable id .read)) :
    handle request room = (.ok (.json 200 table.summary.document), room) := by
  obtain ⟨place, at_place, _⟩ := Registry.exists_of_find? found
  have asked : request.action room.registry = .ok (.ofTable id .read, .find id) :=
    Request.action_of_bodiless called rfl at_place rfl
  have performed : room.perform (.find id) = (.ok (.found (some table.summary)), room) := by
    rw [Room.perform, found]
    rfl
  exact handle_told asked performed rfl (if_pos recalls.isWritable_summary)

theorem handle_recent {limit : Int} (called : request.call = .ok (.ofTable id .recent))
    (limited : request.limit? = some limit) (least : 1 ≤ limit) (most : limit ≤ 1000) :
    handle request room = (.ok (.json 200 (.list ((rolls.take
      (min limit.toNat table.history.capacity)).map (Roll.document .camel)))), room) := by
  obtain ⟨place, at_place, here⟩ := Registry.exists_of_find? found
  have asked : request.action room.registry = .ok (.ofTable id .recent, .recent place limit) :=
    Request.action_of_bodiless called rfl at_place (Request.recent?_of_limit? limited least most)
  have there : room.table? place = some table := here
  have performed : room.perform (.recent place limit) =
      (.ok (.recalled (table.history.recent limit)), room) := by
    rw [Room.perform, Room.asking, there]
  rw [← recalls.recent_eq limit]
  refine handle_told asked performed rfl (if_pos ?_)
  rw [Document.isWritable_list, List.all_map, List.all_eq_true]
  exact fun roll member => (recalls.sendable.rolls roll (List.mem_of_mem_take member)).1

/-- The latest roll is asked for. -/
theorem perform_last {asks : TableCall} (called : request.call = .ok (.ofTable id asks))
    (latest : asks = .latest ∨ asks = .latestText) :
    ∃ place, request.action room.registry = .ok (.ofTable id asks, .last place) ∧
      room.perform (.last place) = (.ok (.latest rolls.head?), room) := by
  obtain ⟨place, at_place, here⟩ := Registry.exists_of_find? found
  have there : room.table? place = some table := here
  refine ⟨place, ?_, ?_⟩
  · rcases latest with rfl | rfl <;>
      exact Request.action_of_bodiless called rfl at_place rfl
  · rw [Room.perform, Room.asking, there]
    exact congrArg (fun last => (Except.ok (Answer.latest last), room)) recalls.last?_eq

theorem handle_latest (called : request.call = .ok (.ofTable id .latest)) :
    handle request room = (.ok (match rolls.head? with
      | none => .noRolls
      | some roll => .json 200 (roll.document .camel)), room) := by
  obtain ⟨place, asked, performed⟩ := perform_last found recalls called (.inl rfl)
  cases head : rolls.head? with
  | none =>
    rw [head] at performed
    exact handle_told asked performed rfl rfl
  | some roll =>
    rw [head] at performed
    exact handle_told asked performed rfl (if_pos (recalls.sends_head head).1)

theorem handle_latestText (called : request.call = .ok (.ofTable id .latestText)) :
    handle request room = (.ok (match rolls.head? with
      | none => .noRolls
      | some roll => ⟨200, .plain roll.text⟩), room) := by
  obtain ⟨place, asked, performed⟩ := perform_last found recalls called (.inr rfl)
  cases head : rolls.head? with
  | none =>
    rw [head] at performed
    exact handle_told asked performed rfl rfl
  | some roll =>
    rw [head] at performed
    have line : roll.line = .ok roll.text := if_pos (recalls.sends_head head).2
    have sent : Response.ofLatest true (some roll) = .ok ⟨200, .plain roll.text⟩ := by
      rw [Response.ofLatest, line]
      rfl
    exact handle_told asked performed sent rfl

end OpenTable

end Service

/-! ### Closed for good -/

namespace Registry

variable {σ : Type} {before after : Registry σ} {move : Move σ} {id : Text}

/-- The id was a table's and never is again. -/
structure Gone (id : Text) (registry : Registry σ) : Prop where
  numbered : registry.Numbered
  spent : registry.IsSpent id
  missing : registry.history? id = none

theorem Gone.placeOf? (gone : before.Gone id) : before.placeOf? id = none :=
  placeOf?_eq_none_iff.mpr (Option.map_eq_none_iff.mp gone.missing)

theorem Gone.of_moves (gone : before.Gone id) (moves : before.Moves move after) :
    after.Gone id where
  numbered := moves.numbered gone.numbered
  spent := moves.isSpent gone.spent
  missing := by
    rw [moves.history? gone.numbered, gone.missing]
    cases moves with
    | @opened name capacity limits opens =>
      have apart : (before.newest name capacity limits).id ≠ id := by
        intro same
        have spent := gone.spent
        rw [← same] at spent
        exact before.not_isSpent_next spent
      exact if_neg apart
    | _ => simp [Move.held]

end Registry

namespace Service

variable {σ : Type} [DrawSource σ] {request : Request} {room : Room σ} {id : Text}

theorem numbered_serve (requests : List Request) (numbered : room.registry.Numbered) :
    (serve requests room).registry.Numbered := by
  induction requests generalizing room with
  | nil => exact numbered
  | cons request rest ih =>
    obtain ⟨move, makes⟩ := Exchange.exists_makes ⟨room, request⟩
    exact ih (makes.moves.numbered numbered)

theorem gone_serve (requests : List Request) (gone : room.registry.Gone id) :
    (serve requests room).registry.Gone id := by
  induction requests generalizing room with
  | nil => exact gone
  | cons request rest ih =>
    obtain ⟨move, makes⟩ := Exchange.exists_makes ⟨room, request⟩
    exact ih (gone.of_moves makes.moves)

/-- A request that closes a table asks for that of a table that is open. -/
theorem action_of_closes (closes : Exchange.closes id ⟨room, request⟩ = true) :
    request.action room.registry = .ok (.ofTable id .close, .delete id) := by
  cases asked : request.action room.registry with
  | error response =>
    rw [(Exchange.makes_rest_of_refused asked).closes] at closes
    cases closes
  | ok found =>
  obtain ⟨call, action⟩ := found
  obtain ⟨called, means⟩ := Request.means_of_action asked
  have same : call = .ofTable id .close := by
    by_contra apart
    rw [Exchange.closes, Exchange.fulfils_of_ne asked apart] at closes
    cases closes
  subst same
  cases means with
  | close => rfl
  | request wanted options found admits => cases admits

theorem gone_of_closes (numbered : room.registry.Numbered)
    (closes : Exchange.closes id ⟨room, request⟩ = true) :
    (handle request room).2.registry.Gone id := by
  have asked := action_of_closes closes
  have makes := Exchange.makes_closed asked
  obtain ⟨place, found⟩ := (Request.means_of_action asked).2.exists_place
  obtain ⟨table, here, _⟩ := Registry.exists_of_placeOf? found
  have spent := numbered.isSpent_of_find? (Registry.find?_of_place found here)
  exact
    { numbered := makes.moves.numbered numbered
      spent := makes.moves.isSpent spent
      missing := (makes.moves.history? numbered id).trans (if_pos rfl) }

/-- Closing a table leaves the other tables as they are. -/
theorem find?_of_closes (closes : Exchange.closes id ⟨room, request⟩ = true) {other : Text}
    (apart : other ≠ id) :
    (handle request room).2.registry.find? other = room.registry.find? other := by
  rw [handle_asked (action_of_closes closes)]
  exact (Registry.find?_delete id other room.registry).trans (if_neg apart)

/-! ### The whole of a session -/

/-- What is told of a table for which so many results were sent back. -/
def summaryAfter (results : Nat) (table : Table σ) : Document :=
  TableSummary.document
    ⟨table.id, table.name, table.history.capacity, min table.history.capacity results⟩

/-- What the service answers about an open table for which some results were sent back, those of
some rolls. Nothing is changed by asking. -/
structure Tells (id : Text) (table : Table σ) (results : List Document) (rolls : List Roll)
    (room : Room σ) : Prop where
  of_rolls : results = rolls.map (Roll.document .camel)
  read : ∀ request : Request, request.call = .ok (.ofTable id .read) →
    handle request room = (.ok (.json 200 (summaryAfter results.length table)), room)
  recent : ∀ (request : Request) (limit : Int), request.call = .ok (.ofTable id .recent) →
    request.limit? = some limit → 1 ≤ limit → limit ≤ 1000 → handle request room =
      (.ok (.json 200 (.list (results.take (min limit.toNat table.history.capacity)))), room)
  latest : ∀ request : Request, request.call = .ok (.ofTable id .latest) →
    handle request room = (.ok (match results.head? with
      | none => .noRolls
      | some result => .json 200 result), room)
  latestText : ∀ request : Request, request.call = .ok (.ofTable id .latestText) →
    handle request room = (.ok (match rolls.head? with
      | none => .noRolls
      | some roll => ⟨200, .plain roll.text⟩), room)

omit [DrawSource σ] in
theorem summaryAfter_of_recalls {table : Table σ} {rolls : List Roll}
    (recalls : table.history.Recalls rolls) :
    table.summary.document = summaryAfter rolls.length table := by
  rw [Table.summary, recalls.size_eq, summaryAfter]

theorem tells_of_recalls {table : Table σ} {rolls : List Roll}
    (found : room.registry.find? id = some table) (recalls : table.history.Recalls rolls) :
    Tells id table (rolls.map (Roll.document .camel)) rolls room where
  of_rolls := rfl
  read request called := by
    rw [handle_read found recalls called, summaryAfter_of_recalls recalls, List.length_map]
  recent request limit called limited least most := by
    rw [handle_recent found recalls called limited least most, List.map_take]
  latest request called := by
    rw [handle_latest found recalls called, List.head?_map]
    cases rolls.head? <;> rfl
  latestText request called := handle_latestText found recalls called

/-- A table that is opened has nothing in its history. -/
theorem response_of_opened? {exchange : Exchange σ} (opened : exchange.opened? = some id) :
    ∃ name capacity, exchange.response =
      .ok (.json 201 (TableSummary.document ⟨id, name, capacity, 0⟩)) := by
  obtain ⟨room, request⟩ := exchange
  have succeeds : ¬∀ response, Exchange.response ⟨room, request⟩ = .ok response →
      300 ≤ response.status := by
    intro refused
    rw [Exchange.opened?_of_status refused] at opened
    cases opened
  cases asked : request.action room.registry with
  | error response => exact absurd (Exchange.status_of_refused asked) succeeds
  | ok found =>
  obtain ⟨call, action⟩ := found
  obtain ⟨called, means⟩ := Request.means_of_action asked
  have same : call = .openTable := by
    by_contra apart
    rw [Exchange.opened?_of_ne asked apart] at opened
    cases opened
  subst same
  cases means with
  | openTable name capacity =>
    have answered := (Exchange.response_of_opening asked).resolve_right succeeds
    have told := Exchange.opened?_of_opening asked answered
    rw [opened] at told
    exact ⟨name, _, by rw [answered, Option.some.inj told]; rfl⟩

omit [DrawSource σ] in
theorem registry_of_start {settings : Settings} {source : σ} {sinks : List Sink} {fresh : Room σ}
    (started : start settings source sinks = .ok fresh) :
    fresh.registry = Registry.start (settings.tableDefaults source) := by
  unfold start at started
  cases named : settings.level with
  | error fault => rw [named] at started; cases started
  | ok level =>
    rw [named] at started
    cases started
    rfl

omit [DrawSource σ] in
theorem exists_of_holds {isOpen : Bool} {rolls : List Roll}
    (holds : Holds rolls isOpen (room.registry.history? id)) :
    (room.registry.find? id).isSome = isOpen ∧
      ∀ table, room.registry.find? id = some table → table.history.Recalls rolls := by
  cases found : room.registry.find? id with
  | none =>
    rw [Registry.history?, found] at holds
    cases holds
    exact ⟨rfl, fun _ same => by cases same⟩
  | some table =>
    rw [Registry.history?, found] at holds
    cases holds with
    | opened recalls => exact ⟨rfl, fun _ same => Option.some.inj same ▸ recalls⟩

section Started

variable {settings : Settings} {source : σ} {sinks : List Sink} {fresh : Room σ}
  (started : start settings source sinks = .ok fresh) (requests : List Request)
include started

theorem numbered_of_started : (serve requests fresh).registry.Numbered := by
  have numbered := Registry.numbered_start (settings.tableDefaults source)
  rw [← registry_of_start started] at numbered
  exact numbered_serve requests numbered

theorem recalls_of_started (onTime : OnTime (exchanges requests fresh)) (id : Text) :
    ((serve requests fresh).registry.find? id).isSome = isOpenAfter id (exchanges requests fresh) ∧
      ∀ table, (serve requests fresh).registry.find? id = some table →
        table.history.Recalls (rollsOf id (exchanges requests fresh)) := by
  have ledger := Registry.ledger_start id (settings.tableDefaults source)
  rw [← registry_of_start started] at ledger
  exact exists_of_holds (ledger_serve requests ledger onTime).holds

theorem listing_of_started (onTime : OnTime (exchanges requests fresh)) {request : Request}
    (called : request.call = .ok .listTables) : handle request (serve requests fresh) =
      (.ok (.json 200 (.list ((serve requests fresh).registry.all.map fun table =>
        summaryAfter (resultsOf table.id (exchanges requests fresh)).length table))),
        serve requests fresh) := by
  have recalls (table : Table σ) (member : table ∈ (serve requests fresh).registry.all) :
      table.history.Recalls (rollsOf table.id (exchanges requests fresh)) :=
    (recalls_of_started started requests onTime table.id).2 table
      ((numbered_of_started started requests).find?_of_mem member)
  have summaries : (serve requests fresh).registry.all.map (fun table => table.summary.document) =
      (serve requests fresh).registry.all.map fun table =>
        summaryAfter (resultsOf table.id (exchanges requests fresh)).length table := by
    refine List.map_congr_left fun table member => ?_
    rw [summaryAfter_of_recalls (recalls table member), resultsOf_eq_map onTime, List.length_map]
  rw [handle_listTables called fun table member => (recalls table member).isWritable_summary,
    summaries]

/-- A table that was closed is not found, whatever was asked since. -/
theorem noTable_of_closed {earlier later : List Request} {closing : Request} {id : Text}
    (closes : Exchange.closes id ⟨serve earlier fresh, closing⟩ = true) {request : Request}
    {call : TableCall} (called : request.call = .ok (.ofTable id call))
    (readable : request.IsReadable) :
    handle request (serve (earlier ++ closing :: later) fresh) =
      (.ok .noTable, serve (earlier ++ closing :: later) fresh) := by
  have gone := gone_of_closes (numbered_of_started started earlier) closes
  have after : serve (earlier ++ closing :: later) fresh =
      serve later (handle closing (serve earlier fresh)).2 := List.foldl_append
  rw [after]
  exact handle_unknown called readable (gone_serve later gone).placeOf?

/-- Of a service that starts afresh. While no request fails late, a table is open exactly if it was
opened and has not been closed since, and the service tells about it what was sent back for it. A
table that is closed is not found from then on, and closing it changes no other. -/
theorem tables_tell_sent_results :
    (OnTime (exchanges requests fresh) →
      (∀ id, ((serve requests fresh).registry.find? id).isSome =
          isOpenAfter id (exchanges requests fresh) ∧
        ∀ table, (serve requests fresh).registry.find? id = some table →
          Tells id table (resultsOf id (exchanges requests fresh))
            (rollsOf id (exchanges requests fresh)) (serve requests fresh)) ∧
      (∀ table ∈ (serve requests fresh).registry.all,
        (serve requests fresh).registry.find? table.id = some table) ∧
      ∀ request, request.call = .ok .listTables → handle request (serve requests fresh) =
        (.ok (.json 200 (.list ((serve requests fresh).registry.all.map fun table =>
          summaryAfter (resultsOf table.id (exchanges requests fresh)).length table))),
          serve requests fresh)) ∧
    (∀ exchange ∈ exchanges requests fresh, ∀ id, exchange.opened? = some id →
      ∃ name capacity, exchange.response =
        .ok (.json 201 (TableSummary.document ⟨id, name, capacity, 0⟩))) ∧
    ∀ id earlier closing later, requests = earlier ++ closing :: later →
      Exchange.closes id ⟨serve earlier fresh, closing⟩ = true →
      (∀ other ≠ id,
        (handle closing (serve earlier fresh)).2.registry.find? other =
          (serve earlier fresh).registry.find? other) ∧
      ∀ request call, request.call = .ok (.ofTable id call) → request.IsReadable →
        handle request (serve requests fresh) = (.ok .noTable, serve requests fresh) := by
  refine ⟨fun onTime => ⟨fun id => ?_, ?_, ?_⟩, fun _ _ _ => response_of_opened?, ?_⟩
  · obtain ⟨isOpen, recalls⟩ := recalls_of_started started requests onTime id
    refine ⟨isOpen, fun table found => ?_⟩
    rw [resultsOf_eq_map onTime]
    exact tells_of_recalls found (recalls table found)
  · exact fun _ => (numbered_of_started started requests).find?_of_mem
  · exact fun _ => listing_of_started started requests onTime
  · rintro id earlier closing later rfl closes
    exact ⟨fun _ => find?_of_closes closes, fun _ _ => noTable_of_closed started closes⟩

end Started

/-! ### A session of one table -/

def firstId : Text := "000000000001".toList

/-- A request that brings no body. -/
def bodiless (method path : String) : Request := ⟨method.toList, path.toList, [], []⟩

def latestRequest : Request := bodiless "GET" "/tables/000000000001/rolls/latest"

def closeRequest : Request := bodiless "DELETE" "/tables/000000000001"

def sixGroup : DiceGroup := ⟨some sixDie, 6, 1, [⟨6, 6, true, false⟩], 6⟩

def sixRoll : Roll := ⟨"d6".toList, [sixGroup], 0, 6, sixParsed.formula⟩

theorem fits_six : Numeral.fits 6 = true := Numeral.fits_small (n := 6) (by decide)

theorem run_sixDie_highest : (Roll.groupsOf 50 [sixDie] : Rolling Supply _).run.run .highest =
    (.ok [sixGroup], .highest) := by
  have writable : sixDie.isWritable = true := by
    simp [DiceTerm.isWritable, DiceTerm.numerals, sixDie, fits_one, fits_six, Numeral.fits_zero]
  rw [Roll.groupsOf, DiceTerm.evaluate, writable]
  cbv

theorem rolls_sixRoll : ∃ table,
    (roomOf .highest).Rolls 0 (.roll "d6".toList) table sixRoll .highest := by
  obtain ⟨table, found, limits, source⟩ : ∃ table, (roomOf .highest).table? 0 = some table ∧
      table.limits = ⟨100, 1000, 50⟩ ∧ table.source = .highest := ⟨_, rfl, rfl, rfl⟩
  have dice : sixParsed.diceTerms = [sixDie] := rfl
  refine ⟨table, .plain "d6".toList, rfl, found, ?_⟩
  rw [Room.outcome, Order.plain, limits, source,
    Roll.ofExpression_of_parse parse_six (List.cons_ne_nil _ _), Roll.ofParsed, Rolling.run_bind,
    Rolling.run_adapt, dice, run_sixDie_highest]
  rfl

theorem isWritable_sixRoll : (sixRoll.document .camel).isWritable = true := by
  simp [sixRoll, sixGroup, Roll.document, DiceGroup.document, Die.document, asText,
    Document.isWritable, Document.fieldsWritable, Document.itemsWritable, fits_one, fits_six,
    Numeral.fits_zero]

def rollingSession : List Request := [openRequest, sixRequest]

theorem asked_sixRequest : sixRequest.action (roomOf .highest).registry =
    .ok (.ofTable firstId .roll, RollRequest.action 0 {} (.roll "d6".toList)) :=
  action_sixRequest .highest

theorem makes_sixRequest :
    Exchange.Makes ⟨roomOf .highest, sixRequest⟩ (.rolled firstId sixRoll) := by
  obtain ⟨table, rolls⟩ := rolls_sixRoll
  have found : (roomOf .highest).registry.placeOf? firstId = some 0 := rfl
  exact Exchange.makes_rolled rfl asked_sixRequest found rolls

theorem exchanges_rollingSession : exchanges rollingSession (startOf .highest) =
    [⟨startOf .highest, openRequest⟩, ⟨roomOf .highest, sixRequest⟩] := by
  simp only [rollingSession, exchanges, handle_openRequest]

theorem onTime_rollingSession : OnTime (exchanges rollingSession (startOf .highest)) := by
  have opened := congrArg Prod.fst (handle_openRequest .highest)
  obtain ⟨table, rolls⟩ := rolls_sixRoll
  have answered := handle_rolls asked_sixRequest rolls
  rw [isWritable_sixRoll] at answered
  obtain ⟨status, value, _, answered⟩ := answered
  rw [exchanges_rollingSession]
  exact List.forall_mem_cons.mpr ⟨onTime_of_response opened,
    List.forall_mem_singleton.mpr (onTime_of_response answered)⟩

theorem idOf_one : Registry.idOf 1 = firstId := by cbv

/-- The session opens the table and rolls once. -/
theorem told_rollingSession :
    isOpenAfter firstId (exchanges rollingSession (startOf .highest)) = true ∧
      resultsOf firstId (exchanges rollingSession (startOf .highest)) =
        [sixRoll.document .camel] := by
  have asked := action_openRequest (startOf .highest).registry
  have opened : Exchange.opened? ⟨startOf .highest, openRequest⟩ = some firstId := by
    rw [Exchange.opened?_of_opening asked (congrArg Prod.fst (handle_openRequest .highest))]
    exact congrArg some idOf_one
  have silent : Exchange.result? firstId ⟨startOf .highest, openRequest⟩ = none := by
    rw [Exchange.result?, (Request.means_of_action asked).1]
    cases Exchange.response ⟨startOf .highest, openRequest⟩ <;> rfl
  have kept : Exchange.clears firstId ⟨startOf .highest, openRequest⟩ = false :=
    Exchange.fulfils_of_ne asked Call.noConfusion
  have among : ⟨roomOf .highest, sixRequest⟩ ∈ exchanges rollingSession (startOf .highest) := by
    rw [exchanges_rollingSession]
    exact .tail _ (.head _)
  have onTime : ¬sixRequest.FailsLate (roomOf .highest) :=
    onTime_rollingSession ⟨roomOf .highest, sixRequest⟩ among
  have makes := makes_sixRequest
  rw [exchanges_rollingSession]
  constructor
  · simp [isOpenAfter, keepsOpen, opened, makes.opened? onTime, makes.closes]
  · simp [resultsOf, logged, kept, silent, makes.clears, makes.result? onTime]

theorem call_latestRequest : latestRequest.call = .ok (.ofTable firstId .latest) := by cbv

theorem call_closeRequest : closeRequest.call = .ok (.ofTable firstId .close) := by cbv

/-- The table of an open id can be closed. -/
theorem closes_closeRequest {room : Room Supply}
    (isOpen : (room.registry.find? firstId).isSome = true) :
    Exchange.closes firstId ⟨room, closeRequest⟩ = true := by
  obtain ⟨table, found⟩ := Option.isSome_iff_exists.mp isOpen
  obtain ⟨place, at_place, _⟩ := Registry.exists_of_find? found
  have asked : closeRequest.action room.registry = .ok (.ofTable firstId .close, .delete firstId) :=
    Request.action_of_bodiless call_closeRequest rfl at_place rfl
  rw [(Exchange.makes_closed asked).closes]
  exact beq_self_eq_true firstId

/-- The roll is told until the table is closed. -/
theorem tables_tell_sent_results_rollingSession :
    (handle latestRequest (serve rollingSession (startOf .highest))).1 =
        .ok (.json 200 (sixRoll.document .camel)) ∧
      (handle latestRequest (serve (rollingSession ++ [closeRequest]) (startOf .highest))).1 =
        .ok .noTable := by
  obtain ⟨told, _, _⟩ := tables_tell_sent_results (start_startOf .highest) rollingSession
  obtain ⟨isOpen, tells⟩ := (told onTime_rollingSession).1 firstId
  obtain ⟨opened, results⟩ := told_rollingSession
  rw [opened] at isOpen
  obtain ⟨table, found⟩ := Option.isSome_iff_exists.mp isOpen
  obtain ⟨_, _, closed⟩ :=
    tables_tell_sent_results (start_startOf .highest) (rollingSession ++ [closeRequest])
  obtain ⟨_, gone⟩ := closed firstId rollingSession closeRequest [] rfl (closes_closeRequest isOpen)
  refine ⟨?_, ?_⟩
  · rw [(tells table found).latest latestRequest call_latestRequest, results]
    rfl
  · rw [gone latestRequest .latest call_latestRequest
      (Request.readable_of_bodiless call_latestRequest rfl)]

/-- A request whose body is no document. -/
def brokenRequest : Request := post "/tables/000000000001/rolls" ['\x7b']

theorem call_brokenRequest : brokenRequest.call = .ok (.ofTable firstId .roll) := by cbv

/-- The body is turned down before the table is looked for. -/
theorem handle_brokenRequest (room : Room Supply) : handle brokenRequest room =
    (.ok (.ofComplaints [⟨[.key "body"], .notJson, .object []⟩]), room) := by
  have read : brokenRequest.found (.ofTable firstId .roll) =
      .error (.ofComplaints [⟨[.key "body"], .notJson, .object []⟩]) := by cbv
  have refused : brokenRequest.action room.registry =
      .error (.ofComplaints [⟨[.key "body"], .notJson, .object []⟩]) := by
    rw [Request.action_eq, call_brokenRequest]
    simp only [Except.bind, read]
  rw [handle_refused refused, send_of_call call_brokenRequest]
  rfl

/-- The table was closed, and it is not for that that the request is turned down. -/
theorem not_noTable_brokenRequest :
    start {} Supply.highest [] = .ok (startOf .highest) ∧
      Exchange.closes firstId ⟨serve [openRequest] (startOf .highest), closeRequest⟩ = true ∧
      brokenRequest.call = .ok (.ofTable firstId .roll) ∧
      ∃ response, (handle brokenRequest
          (serve [openRequest, closeRequest] (startOf .highest))).1 = .ok response ∧
        response.status = 422 := by
  refine ⟨start_startOf .highest, ?_, call_brokenRequest, _,
    congrArg Prod.fst (handle_brokenRequest _), rfl⟩
  rw [serve_openRequest]
  refine closes_closeRequest ?_
  have found : (roomOf .highest).registry.placeOf? firstId = some 0 := rfl
  rw [Registry.isSome_find?, found]
  rfl

end Service

end Tabletop
