import Tabletop.Proofs.Answering

/-!
# Requests that fail

A request that fails leaves every table but its source as it was, and every sink. It fails late if
it is carried out and a number in its response turns out to be too long to be sent; then the roll
is in the history. A fault is answered by the handler of the nearest class above it that has one.
-/
namespace Tabletop

/-! ### Classes of faults -/

/-- The classes that faults are raised under. Those of rolling are values that will not do. -/
inductive FaultClass where
  | exception | value | overflow | http | rolling
  | parse | empty | bursts | draw | command
  deriving DecidableEq, Repr

namespace FaultClass

/-- The class and all above it, the nearest first. -/
def lineage : FaultClass → List FaultClass
  | exception => [exception]
  | value => [value, exception]
  | overflow => [overflow, exception]
  | http => [http, exception]
  | rolling => [rolling, value, exception]
  | parse => [parse, rolling, value, exception]
  | empty => [empty, rolling, value, exception]
  | bursts => [bursts, rolling, value, exception]
  | draw => [draw, rolling, value, exception]
  | command => [command, rolling, value, exception]

/-- The response to a fault of rolling that is the roller's own. -/
def rollersFault (fault : Fault) : Response :=
  .json 422 (.object [("detail", asText fault.message), ("fragment", orNull asText fault.fragment)])

/-- What a service does about faults of a class. -/
def handler? : FaultClass → Option (Fault → Response)
  | rolling => some rollersFault
  | draw => some fun _ => .withDetail 500 "Dice engine failure"
  | http => some fun fault => .json 404 (.object [("detail", asText fault.message)])
  | _ => none

theorem status_of_handler? {above : FaultClass} {handler : Fault → Response}
    (handles : above.handler? = some handler) (fault : Fault) : 400 ≤ (handler fault).status := by
  cases above with
  | rolling =>
    cases handles
    exact show 400 ≤ 422 by decide
  | draw =>
    cases handles
    exact show 400 ≤ 500 by decide
  | http =>
    cases handles
    exact show 400 ≤ 404 by decide
  | _ => exact nomatch handles

end FaultClass

namespace Fault

def errorClass (fault : Fault) : FaultClass :=
  match fault with
  | .noTable => .http
  | _ =>
    match fault.kind with
    | .parse => .parse
    | .empty => .empty
    | .bursts => .bursts
    | .draw => .draw
    | .command => .command
    | .value => .value
    | .overflow => .overflow

/-- The nearest class with a handler answers. Where there is none the fault is not answered. -/
def dispatched (fault : Fault) : Except Fault Response :=
  match fault.errorClass.lineage.findSome? FaultClass.handler? with
  | some handler => .ok (handler fault)
  | none => .error fault

/-- The responses to faults are those of the handlers. -/
theorem ofFault_eq_dispatched (fault : Fault) : Response.ofFault fault = fault.dispatched := by
  cases fault with
  | noTable =>
    have spelled : "Table not found" = String.ofList (message .noTable) :=
      (String.ofList_toList (s := "Table not found")).symm
    exact congrArg (fun text => Except.ok (Response.withDetail 404 text)) spelled
  | _ => rfl

theorem dispatched_of_own {fault : Fault}
    (own : fault.errorClass ∈ [FaultClass.parse, .empty, .bursts, .command]) :
    fault.dispatched = .ok (FaultClass.rollersFault fault) := by
  simp only [List.mem_cons, List.not_mem_nil, or_false] at own
  rw [dispatched]
  rcases own with own | own | own | own <;> rw [own] <;> rfl

theorem status_of_dispatched {fault : Fault} {response : Response}
    (answered : fault.dispatched = .ok response) : 400 ≤ response.status := by
  rw [dispatched] at answered
  split at answered
  next handler found =>
    cases answered
    obtain ⟨above, _, handles⟩ := List.exists_of_findSome?_eq_some found
    exact FaultClass.status_of_handler? handles fault
  · exact nomatch answered

/-- The wording of a fault can be sent. -/
theorem sendable_dispatched (fault : Fault) :
    fault.dispatched.bind Response.sendable = fault.dispatched := by
  have own : (FaultClass.rollersFault fault).sendable = .ok (FaultClass.rollersFault fault) := by
    cases found : fault.fragment <;>
      simp [FaultClass.rollersFault, found, Response.json, Response.sendable, Document.isWritable,
        Document.fieldsWritable, asText, orNull]
  rw [dispatched]
  cases found : fault.errorClass <;> first | exact own | rfl

end Fault

/-! ### What is kept -/

/-- What is shown of a table and what it remembers. -/
def Table.record {σ : Type} (table : Table σ) : TableOutline × History Roll :=
  (table.outline, table.history)

namespace Room

variable {σ : Type}

/-- The same tables with the same histories, and the same sinks. -/
structure Kept (before after : Room σ) : Prop where
  records : after.registry.tables.map Table.record = before.registry.tables.map Table.record
  channel : after.channel = before.channel

theorem Kept.refl (room : Room σ) : Kept room room := ⟨rfl, rfl⟩

/-- Draws do not show. -/
theorem kept_withSource (place : Nat) (source : σ) (room : Room σ) :
    Kept room (room.withSource place source) := by
  rw [withSource]
  split
  · exact .refl room
  next table found =>
    obtain ⟨inside, here⟩ := List.getElem?_eq_some_iff.mp found
    refine ⟨?_, rfl⟩
    have same : Table.record { table with source := source } =
        Table.record room.registry.tables[place] := by rw [here]; rfl
    simp only [withTable, Registry.put, List.map_set, same]
    rw [← List.map_set, List.set_getElem_self]

variable [DrawSource σ]

/-- The action is a roll that its table makes, and a number in the answer is too long to be
sent. -/
def Overflows (room : Room σ) (action : Action) : Prop :=
  ∃ asked place options table roll source, action = RollRequest.action place options asked ∧
    room.Rolls place asked table roll source ∧ (roll.document .camel).isWritable = false

end Room

namespace Request

variable {σ : Type} [DrawSource σ]

/-- The request is carried out and cannot be answered. -/
def FailsLate (request : Request) (room : Room σ) : Prop :=
  ∃ call action, request.action room.registry = .ok (call, action) ∧ room.Overflows action

end Request

namespace Service

variable {σ : Type} [DrawSource σ] {request : Request} {room : Room σ} {call : Call}

/-- No response, or one that reports an error. -/
def IsFailure : Except Fault Response → Prop
  | .ok response => 400 ≤ response.status
  | .error _ => True

section Rolls

variable {asked : RollRequest} {place : Nat} {options : RollOptions} {table : Table σ}
  {roll : Roll} {source : σ}

/-- A roll that is told is sent if it can be. -/
theorem respond_of_told (call : Call) {answer : Answer} (about : answer.roll? = some roll) :
    ∃ status value, status < 400 ∧
      (respond call (.ok answer)).bind Response.sendable =
        if (roll.document .camel).isWritable then .ok (.json status value)
        else .error (.numeral .tooLongToWrite) := by
  cases answer with
  | rolled told =>
    cases about
    exact ⟨201, roll.document .camel, by decide, rfl⟩
  | replied reply =>
    refine ⟨200, reply.document, by decide, ?_⟩
    rw [← Reply.isWritable_document about]
    rfl
  | _ => exact nomatch about

/-- The answer to a roll is a response, unless the roll cannot be sent. -/
theorem handle_rolls
    (meant : request.action room.registry = .ok (call, asked.action place options))
    (rolls : room.Rolls place asked table roll source) :
    if (roll.document .camel).isWritable then
      ∃ status value, status < 400 ∧ (handle request room).1 = .ok (.json status value)
    else (handle request room).1 = .error (.numeral .tooLongToWrite) := by
  have told := (Room.perform_rolls options rolls).2
  rw [handle_asked meant]
  cases writable : (roll.document .camel).isWritable with
  | true =>
    obtain ⟨answer, answered⟩ := Room.answer_of_rolls options rolls writable
    rw [answered] at told
    obtain ⟨status, value, fine, responds⟩ := respond_of_told call told
    rw [writable] at responds
    exact ⟨status, value, fine, by rw [answered]; exact responds⟩
  | false =>
    cases answered : (room.perform (asked.action place options)).1 with
    | error fault =>
      rw [answered] at told
      subst told
      rfl
    | ok answer =>
      rw [answered] at told
      obtain ⟨_, _, _, responds⟩ := respond_of_told call told
      rw [writable] at responds
      exact responds

/-- A roll shows unless the history is full of it. -/
theorem not_kept_of_rolls
    (meant : request.action room.registry = .ok (call, asked.action place options))
    (rolls : room.Rolls place asked table roll source)
    (shows : table.history.push roll ≠ table.history) : ¬room.Kept (handle request room).2 := by
  intro kept
  have records := kept.records
  have pushed := (Room.perform_rolls options rolls).1
  rw [handle_asked meant, pushed] at records
  obtain ⟨_, _, found, _⟩ := rolls
  have before : room.registry.tables[place]? = some table := found
  have after : (room.registry.put place
      { table with source := source, history := table.history.push roll }).tables[place]? =
        some _ := Room.table?_withTable found _
  have here := congrArg (·[place]?) records
  simp only [List.getElem?_map, before, after, Option.map_some, Option.some.injEq] at here
  exact shows (congrArg Prod.snd here)

end Rolls

section Opening

variable {name : Text} {capacity : Option Int} {limits : Option Limits}

theorem handle_create
    (meant : request.action room.registry = .ok (call, .create name capacity limits))
    (opens : History.Opens (room.registry.granted capacity)) :
    handle request room =
      (.ok (.json 201 (room.registry.newest name capacity limits).summary.document),
        { room with registry := (room.registry.create name capacity limits).2 }) := by
  have sendable : (room.registry.newest name capacity limits).summary.document.isWritable =
      true := by
    rw [TableSummary.isWritable_document]
    simp only [Table.summary, Registry.newest, History.size, List.length_nil,
      History.fits_toNat opens, Nat.cast_zero, Numeral.fits_zero, Bool.and_true]
  rw [handle_asked meant, Room.perform, Room.create, Registry.create_of_opens opens]
  exact congrArg (·, _) (if_pos sendable)

end Opening

/-- A request that fails late has no response. -/
theorem handle_failsLate (late : request.FailsLate room) :
    (handle request room).1 = .error (.numeral .tooLongToWrite) := by
  obtain ⟨call, action, meant, overflows⟩ := late
  obtain ⟨asked, place, options, table, roll, source, rfl, rolls, long⟩ := overflows
  have handled := handle_rolls meant rolls
  rw [long] at handled
  exact handled

theorem onTime_of_response {response : Response}
    (answered : (handle request room).1 = .ok response) : ¬request.FailsLate room := by
  intro late
  rw [handle_failsLate late] at answered
  exact nomatch answered

theorem handle_fault {action : Action} {fault : Fault}
    (meant : request.action room.registry = .ok (call, action))
    (failed : (room.perform action).1 = .error fault) :
    (handle request room).1 = fault.dispatched := by
  rw [handle_asked meant, failed]
  exact (congrArg (Except.bind · Response.sendable) fault.ofFault_eq_dispatched).trans
    fault.sendable_dispatched

/-- A request that fails, and not late, leaves the tables and the sinks as they were. -/
theorem kept_of_failure (failed : IsFailure (handle request room).1)
    (onTime : ¬request.FailsLate room) : room.Kept (handle request room).2 := by
  cases meant : request.action room.registry with
  | error response =>
    rw [handle_refused meant]
    exact .refl room
  | ok asked =>
  obtain ⟨call, action⟩ := asked
  have means := (Request.means_of_action meant).2
  cases means with
  | openTable name capacity =>
    by_cases opens : History.Opens (room.registry.granted capacity)
    · rw [handle_create meant opens] at failed
      exact absurd failed (by simp [IsFailure, Response.json])
    · obtain ⟨fault, refused⟩ := Registry.exists_fault_of_create opens
      rw [handle_asked meant, Room.perform, Room.create, refused]
      exact ⟨rfl, rfl⟩
  | listTables | read | recent | latest | latestText =>
    rw [handle_asked meant]
    exact .refl room
  | close found =>
    rw [handle_asked meant] at failed
    exact absurd failed (by simp [IsFailure, Room.perform, respond, Response.ofAnswer,
      Except.bind, Response.sendable, Response.bare])
  | clear found =>
    obtain ⟨table, here, _⟩ := Registry.exists_of_placeOf? found
    have here : room.table? _ = some table := here
    rw [handle_asked meant] at failed
    exact absurd failed (by simp [IsFailure, Room.perform, Room.asking, here, respond,
      Response.ofAnswer, Except.bind, Response.sendable, Response.bare])
  | @request id place call asked options found admits =>
    by_cases idle : ∀ table roll source, ¬room.Rolls place asked table roll source
    · obtain ⟨answer, source, performed, _⟩ := Room.perform_idle options idle
      rw [handle_asked meant, performed]
      exact Room.kept_withSource place source room
    · simp only [not_forall, not_not] at idle
      obtain ⟨table, roll, source, rolls⟩ := idle
      have handled := handle_rolls meant rolls
      cases writable : (roll.document .camel).isWritable with
      | true =>
        rw [writable] at handled
        obtain ⟨status, value, fine, responds⟩ := handled
        rw [responds] at failed
        exact absurd failed (Nat.not_le.mpr fine)
      | false =>
        exact absurd ⟨_, _, meant, _, _, _, _, _, _, rfl, rolls, writable⟩ onTime

/-- A request that fails, and not late, changes no table and no sink. A fault that an action of a
request ends in is answered by its handler: one of the roller's own with its wording and its
fragment, and one of the draw source with a fixed response, although both are faults of rolling. A
table that is not open is not found. -/
theorem failure_keeps_tables_and_dispatches (request : Request) (room : Room σ) :
    (IsFailure (handle request room).1 → ¬request.FailsLate room →
      room.Kept (handle request room).2) ∧
    (request.FailsLate room → (handle request room).1 = .error (.numeral .tooLongToWrite)) ∧
    (∀ call action fault, request.action room.registry = .ok (call, action) →
      (room.perform action).1 = .error fault →
      (handle request room).1 = fault.dispatched ∧
      (fault.errorClass ∈ [.parse, .empty, .bursts, .command] →
        (handle request room).1 = .ok (.json 422 (.object [("detail", asText fault.message),
          ("fragment", orNull asText fault.fragment)]))) ∧
      (fault.errorClass = .draw → .rolling ∈ fault.errorClass.lineage ∧
        (handle request room).1 = .ok (.withDetail 500 "Dice engine failure"))) ∧
    ∀ id call, request.call = .ok (.ofTable id call) → request.IsReadable →
      room.registry.placeOf? id = none → (handle request room).1 = .ok .noTable := by
  refine ⟨kept_of_failure, handle_failsLate, ?_, ?_⟩
  · intro call action fault meant failed
    have answered := handle_fault meant failed
    refine ⟨answered, fun own => ?_, fun drawn => ?_⟩
    · rw [answered, Fault.dispatched_of_own own]
      rfl
    · rw [answered, Fault.dispatched, drawn]
      exact ⟨by decide, rfl⟩
  · intro id call called readable unknown
    rw [handle_unknown called readable unknown]

/-! ### Draws that are no faces -/

def post (path : String) (body : Text) : Request := ⟨"POST".toList, path.toList, [], body⟩

def startOf (source : Supply) : Room Supply :=
  Room.start ⟨50, ⟨100, 1000, 50⟩, fun _ => source⟩ (Channel.ofSinks true [])

/-- A room with one table, which has not rolled yet. -/
def roomOf (source : Supply) : Room Supply :=
  { startOf source with registry := ((startOf source).registry.create "T".toList none none).2 }

def sixDie : DiceTerm := ⟨1, 6, none, none, 0, "d6".toList⟩

def sixParsed : Parsed := ⟨"d6".toList, [.dice sixDie], []⟩

/-- The source answers seven. -/
def sevenDrawn : Fault := .refusedDraw "d6".toList sixDie (.integer 7)

def sixRequest : Request :=
  post "/tables/000000000001/rolls" "\x7b\x22expression\x22:\x22d6\x22\x7d".toList

theorem action_sixRequest (source : Supply) : sixRequest.action (roomOf source).registry =
    .ok (.ofTable "000000000001".toList .roll, .roll 0 "d6".toList {}) := by
  have called : sixRequest.call = .ok (.ofTable "000000000001".toList .roll) := by cbv
  have read : sixRequest.found (.ofTable "000000000001".toList .roll) =
      .ok (some (.object [("expression", .text "d6")])) := by cbv
  rw [Request.action_of_found called read]
  cbv

theorem parse_six : Notation.parse ⟨100, 1000, 50⟩ "d6".toList = .ok sixParsed := by cbv

theorem run_sixDie : (Roll.groupsOf 50 [sixDie] : Rolling Supply (List DiceGroup)).run.run .beyond =
    (.error (.refusedDraw [] sixDie (.integer 7)), .beyond) := by
  have six : Numeral.fits 6 = true := Numeral.fits_small (n := 6) (by decide)
  have seven : Numeral.fits 7 = true := Numeral.fits_small (n := 7) (by decide)
  have worded : Fault.ofRefusedDraw sixDie (.integer 7) = .refusedDraw [] sixDie (.integer 7) := by
    simp [Fault.ofRefusedDraw, Fault.worded, Document.isWritable, sixDie, six, seven]
  have face : (sixDie.face : Rolling Supply Int).run.run .beyond =
      (.error (Fault.ofRefusedDraw sixDie (.integer 7)), .beyond) := rfl
  have single : sixDie.count = 1 := rfl
  have drawn : (sixDie.faces sixDie.count : Rolling Supply (List Int)).run.run .beyond =
      (.error (.refusedDraw [] sixDie (.integer 7)), .beyond) := by
    rw [single, DiceTerm.faces, Rolling.run_bind, face, worded]
  rw [Roll.groupsOf, Rolling.run_bind, DiceTerm.evaluate, Rolling.run_bind, drawn]

theorem perform_sixRequest :
    ((roomOf .beyond).perform (.roll 0 "d6".toList {})).1 = .error sevenDrawn := by
  have dice : sixParsed.diceTerms = [sixDie] := rfl
  obtain ⟨table, found, limits, source⟩ : ∃ table, (roomOf .beyond).table? 0 = some table ∧
      table.limits = ⟨100, 1000, 50⟩ ∧ table.source = .beyond := ⟨_, rfl, rfl, rfl⟩
  have failed : Room.outcome table (.plain "d6".toList) = (.error sevenDrawn, .beyond) := by
    rw [Room.outcome, Order.plain, limits, source,
      Roll.ofExpression_of_parse parse_six (List.cons_ne_nil _ _), Roll.ofParsed, Rolling.run_bind,
      Rolling.run_adapt, dice, run_sixDie]
    rfl
  have filled : (roomOf .beyond).fill 0 (.plain "d6".toList) {} = _ := Room.fill_fault found failed
  exact congrArg (fun found => found.1.map Answer.rolled) filled

/-- The fault is one of rolling, and yet its own handler answers. -/
theorem failure_keeps_tables_and_dispatches_sixRequest :
    (roomOf .beyond).Kept (handle sixRequest (roomOf .beyond)).2 ∧
      FaultClass.rolling ∈ sevenDrawn.errorClass.lineage ∧
      (handle sixRequest (roomOf .beyond)).1 = .ok (.withDetail 500 "Dice engine failure") := by
  have drawn : sevenDrawn.errorClass = .draw := rfl
  obtain ⟨kept, _, faults, _⟩ := failure_keeps_tables_and_dispatches sixRequest (roomOf .beyond)
  obtain ⟨_, _, answered⟩ := faults _ _ _ (action_sixRequest .beyond) perform_sixRequest
  obtain ⟨among, answered⟩ := answered drawn
  have error : 400 ≤ (Response.withDetail 500 "Dice engine failure").status := by decide
  exact ⟨kept (by rw [answered]; exact error) (onTime_of_response answered), among, answered⟩

/-! ### A bonus that makes the total too long -/

section Bonus

open Notation (WrittenTerm DigitRun textOf longestRun)

theorem fits_one : Numeral.fits 1 = true := Numeral.fits_small (n := 1) (by decide)

theorem fits_twenty : Numeral.fits 20 = true := Numeral.fits_small (n := 20) (by decide)

variable {n : Nat} (fits : Numeral.fits n = true)

/-- One twenty-sided die and a number. -/
def bonusTerms : List WrittenTerm :=
  [.dice false ⟨some (.ofNat 1 fits_one), .ofNat 20 fits_twenty, none, none, true, none⟩,
    .flat ⟨some .plus, .ofNat n fits⟩]

def bonusParsed : Parsed :=
  ⟨textOf (bonusTerms fits), (bonusTerms fits).map WrittenTerm.term, []⟩

def twentyDie : DiceTerm := ⟨1, 20, none, none, 0, "1d20".toList⟩

def twentyGroup : DiceGroup := ⟨some twentyDie, 20, 1, [⟨20, 20, true, false⟩], 20⟩

def bonusRoll : Roll := Roll.ofGroups (bonusParsed fits) [twentyGroup]

theorem parse_bonusTerms :
    Notation.parse ⟨100, 1000, 50⟩ (textOf (bonusTerms fits)) = .ok (bonusParsed fits) := by
  have spelled := Text.spelled_of_marks (Notation.marks_textOf (bonusTerms fits))
  refine Notation.parse_textOf (List.cons_ne_nil _ _) ?_ ?_ spelled
  · simp only [bonusTerms, List.forall_mem_cons]
    refine ⟨?_, trivial, List.forall_mem_nil _⟩
    exact ⟨by decide, by decide, by decide, by decide, nofun, nofun, nofun, nofun⟩
  · simp only [bonusTerms, List.tail_cons, List.forall_mem_cons]
    exact ⟨rfl, List.forall_mem_nil _⟩

theorem run_twentyDie : (Roll.groupsOf 50 [twentyDie] : Rolling Supply _).run.run .highest =
    (.ok [twentyGroup], .highest) := by
  have writable : twentyDie.isWritable = true := by
    simp [DiceTerm.isWritable, DiceTerm.numerals, twentyDie, fits_one, fits_twenty,
      Numeral.fits_zero]
  rw [Roll.groupsOf, DiceTerm.evaluate, writable]
  cbv

theorem order_bonus (positive : n ≠ 0) (ability : Text) :
    ∃ label, Check.order ⟨ability, n, .none⟩ = .ok ⟨textOf (bonusTerms fits), label⟩ := by
  have bonus : DiceTerm.bonusText n = '+' :: Numeral.digits n := by
    rw [DiceTerm.bonusText, if_neg (by omega)]
    rfl
  have text : Edge.none.dice ++ DiceTerm.bonusText n = textOf (bonusTerms fits) := by
    have plus : textOf (bonusTerms fits) =
        "1d20".toList ++ ('+' :: Numeral.digits n ++ []) := rfl
    rw [bonus, plus, List.append_nil]
    rfl
  rw [Check.order, if_pos fits, text]
  exact ⟨_, rfl⟩

theorem rolls_bonus (positive : n ≠ 0) (ability : Text) :
    ∃ table, (roomOf .highest).Rolls 0 (.check ⟨ability, n, .none⟩) table (bonusRoll fits)
      .highest ∧ table.history = ⟨50, []⟩ := by
  obtain ⟨label, ordered⟩ := order_bonus fits positive ability
  obtain ⟨table, found, limits, source, history⟩ : ∃ table,
      (roomOf .highest).table? 0 = some table ∧ table.limits = ⟨100, 1000, 50⟩ ∧
        table.source = .highest ∧ table.history = ⟨50, []⟩ := ⟨_, rfl, rfl, rfl, rfl⟩
  have dice : (bonusParsed fits).diceTerms = [twentyDie] := rfl
  refine ⟨table, ⟨_, congrArg (Except.map some) ordered, found, ?_⟩, history⟩
  rw [Room.outcome, limits, source, Roll.ofExpression_of_parse (parse_bonusTerms fits)
    (List.cons_ne_nil _ _), Roll.ofParsed, Rolling.run_bind, Rolling.run_adapt, dice,
    run_twentyDie]
  rfl

theorem total_bonusRoll : (bonusRoll fits).total = 20 + n := by
  simp only [bonusRoll, bonusParsed, Roll.ofGroups, Parsed.flatTerms, bonusTerms, List.map_cons,
    List.map_nil, WrittenTerm.term, List.filterMap_cons, List.filterMap_nil, Term.flat?,
    Numeral.sum, Notation.WrittenInteger.value, DigitRun.value_ofNat, reduceCtorEq,
    Option.some.injEq, if_false, twentyGroup]
  omega

/-- The largest bonus that can be asked for. -/
theorem fits_longestRun : Numeral.fits (longestRun.value : Nat) = true :=
  Numeral.fits_value longestRun.short

theorem fits_total_longestRun : Numeral.fits (bonusRoll fits_longestRun).total = false := by
  have nines : longestRun.value + 1 = 10 ^ Numeral.maxDigits :=
    Numeral.value_nines Numeral.maxDigits
  rw [Bool.eq_false_iff, Ne, Numeral.fits_iff, total_bonusRoll]
  omega

def bonusBody (digits : Text) : Text :=
  "\x7b\x22attribute\x22:\x22a\x22,\x22bonus\x22:".toList ++ digits ++ ['\x7d']

def longBody : Text := bonusBody (List.replicate Numeral.maxDigits '9')

def longRequest : Request := post "/tables/000000000001/checks" longBody

/-- A document with the ability and the largest bonus. -/
def holdsLongest : Except Json.Flaw Document → Bool
  | .ok (.object [(first, .text ability), (second, .integer bonus)]) =>
    first == "attribute" && ability == "a" && second == "bonus" && bonus == longestRun.value
  | _ => false

def longDocument : Document :=
  .object [("attribute", .text "a"), ("bonus", .integer longestRun.value)]

theorem eq_of_holdsLongest {found : Except Json.Flaw Document} (holds : holdsLongest found = true) :
    found = .ok longDocument := by
  unfold holdsLongest at holds
  split at holds
  · simp only [Bool.and_eq_true, beq_iff_eq] at holds
    obtain ⟨⟨⟨rfl, rfl⟩, rfl⟩, rfl⟩ := holds
    rfl
  · exact nomatch holds

theorem read_longBody : Json.read Request.maxLevels longBody = .ok longDocument :=
  eq_of_holdsLongest (by decide +kernel)

theorem document_of_bonusBody {digits : Text} {document : Document}
    (read : Json.read Request.maxLevels (bonusBody digits) = .ok document) :
    Request.document? (bonusBody digits) = .ok (some document) := by
  have filled : (bonusBody digits).isEmpty = false := rfl
  have guessed : (bonusBody digits).guessed? = some (bonusBody digits) := rfl
  simp only [Request.document?, filled, Bool.false_eq_true, if_false, guessed, Option.map_some,
    read]

theorem check_of_bonus (bonus : Int) : Form.bodyOf (Action.check? 0)
      (some (.object [("attribute", .text "a"), ("bonus", .integer bonus)])) =
    .good (.check 0 ⟨"a".toList, bonus, .none⟩ {}) := by cbv

theorem action_of_bonus {body : Text} {bonus : Int} (read : Request.document? body =
      .ok (some (.object [("attribute", .text "a"), ("bonus", .integer bonus)]))) :
    (post "/tables/000000000001/checks" body).action (roomOf .highest).registry =
      .ok (.ofTable "000000000001".toList .check,
        .check 0 ⟨"a".toList, bonus, .none⟩ {}) := by
  have called : (post "/tables/000000000001/checks" body).call =
      .ok (.ofTable "000000000001".toList .check) := by cbv
  have found : (roomOf .highest).registry.placeOf? "000000000001".toList = some 0 := rfl
  rw [Request.action_of_found called read, Request.actionOf, found]
  simp only [Action.ofTableCall, check_of_bonus]
  rfl

theorem action_longRequest : longRequest.action (roomOf .highest).registry =
    .ok (.ofTable "000000000001".toList .check,
      .check 0 ⟨"a".toList, longestRun.value, .none⟩ {}) :=
  action_of_bonus (document_of_bonusBody read_longBody)

def openRequest : Request := post "/tables" "\x7b\x22name\x22:\x22T\x22\x7d".toList

theorem action_openRequest (registry : Registry Supply) :
    openRequest.action registry = .ok (.openTable, .create "T".toList none none) := by
  have called : openRequest.call = .ok .openTable := by cbv
  have read : openRequest.found .openTable = .ok (some (.object [("name", .text "T")])) := by cbv
  rw [Request.action_of_found called read]
  cbv

theorem start_startOf (source : Supply) : start {} source [] = .ok (startOf source) := rfl

theorem handle_openRequest (source : Supply) : handle openRequest (startOf source) =
    (.ok (.json 201 ((startOf source).registry.newest "T".toList none none).summary.document),
      roomOf source) := by
  have opens : History.Opens ((startOf source).registry.granted none) :=
    show History.Opens 50 by decide
  exact handle_create (action_openRequest _) opens

theorem serve_openRequest (source : Supply) :
    serve [openRequest] (startOf source) = roomOf source :=
  congrArg Prod.snd (handle_openRequest source)

/-- The request fails, and the roll is in the history. -/
theorem not_kept_longRequest : ∃ room : Room Supply,
    (∃ requests fresh, start {} Supply.highest [] = .ok fresh ∧ serve requests fresh = room) ∧
      IsFailure (handle longRequest room).1 ∧ ¬room.Kept (handle longRequest room).2 := by
  have positive : longestRun.value ≠ 0 := by
    have nines : longestRun.value + 1 = 10 ^ Numeral.maxDigits :=
      Numeral.value_nines Numeral.maxDigits
    have large : 1 < 10 ^ Numeral.maxDigits := Nat.one_lt_pow (by decide) (by decide)
    omega
  obtain ⟨table, rolls, empty⟩ := rolls_bonus fits_longestRun positive "a".toList
  have long : ((bonusRoll fits_longestRun).document .camel).isWritable = false := by
    rw [Bool.eq_false_iff]
    intro writable
    have total := (Roll.fits_of_document writable).2
    rw [fits_total_longestRun] at total
    exact nomatch total
  have late : longRequest.FailsLate (roomOf .highest) :=
    ⟨_, _, action_longRequest, _, 0, _, table, _, .highest, rfl, rolls, long⟩
  refine ⟨roomOf .highest, ⟨_, _, start_startOf .highest, serve_openRequest .highest⟩, ?_,
    fun kept => ?_⟩
  · rw [handle_failsLate late]
    trivial
  · refine not_kept_of_rolls action_longRequest rolls ?_ kept
    rw [empty]
    exact fun same => nomatch congrArg History.size same

end Bonus

end Service

end Tabletop
