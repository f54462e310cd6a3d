import Tabletop.Proofs.Course

/-!
# Tables are isolated

Two rooms look alike from a table if the table is the same in both and the other tables differ at
most in their rolls and sources. Rolls and clearings at other tables keep the room alike, and every
other step takes rooms that are alike to rooms that are alike, with the same answer if it is the
table that was asked. So a session without what the others roll is the same session to the table.
-/
namespace Tabletop

namespace Action

/-- A roll or a clearing that is addressed to another table. -/
def isElsewhere (place : Nat) : Action → Bool
  | .roll table .. | .check table .. | .damage table .. | .command table .. | .clear table =>
    table != place
  | _ => false

end Action

/-- The step asks the table at the place: to be opened, for a roll, for what it remembers, or for
itself under an id that no other listed table has. -/
def Step.asks {σ : Type} (place : Nat) (step : Step σ) : Bool :=
  match step.action with
  | .create .. => step.before.registry.tables.length == place
  | .roll table .. | .check table .. | .damage table .. | .command table .. | .recent table _
  | .last table | .clear table => table == place
  | .find id | .delete id => (step.before.registry.placeOf? id).all fun found => found == place
  | _ => false

/-- What the table at the place answers, if it was asked. -/
def Step.answerAt? {σ : Type} (place : Nat) (step : Step σ) : Option (Except Fault Answer) :=
  if step.asks place then some step.answer else none

theorem Step.answerAt?_congr {σ : Type} {place : Nat} {one other : Step σ}
    (asks : one.asks place = other.asks place)
    (answer : other.asks place = true → one.answer = other.answer) :
    one.answerAt? place = other.answerAt? place := by
  rw [answerAt?, answerAt?, asks]
  split
  next asked => rw [answer asked]
  · rfl

namespace Registry

variable {σ : Type}

theorem find?_eq_bind (id : Text) (registry : Registry σ) :
    registry.find? id = (registry.placeOf? id).bind fun place => registry.tables[place]? :=
  List.find?_eq_bind_findIdx?_getElem?

theorem isSome_find? (id : Text) (registry : Registry σ) :
    (registry.find? id).isSome = (registry.placeOf? id).isSome := by
  rw [find?, placeOf?, List.findIdx?_isSome, List.isSome_find?]

theorem placeOf?_of_outlines {one other : Registry σ}
    (same : one.tables.map Table.outline = other.tables.map Table.outline) (id : Text) :
    one.placeOf? id = other.placeOf? id := by
  have seen : bears (σ := σ) id =
      (fun outline => outline.listed && outline.id == id) ∘ Table.outline := rfl
  rw [placeOf?, placeOf?, seen, ← List.findIdx?_map, ← List.findIdx?_map, same]

theorem outlines_closed (id : Text) {one other : List (Table σ)}
    (same : one.map Table.outline = other.map Table.outline) :
    (one.map (closed id)).map Table.outline = (other.map (closed id)).map Table.outline := by
  have seen : Table.outline ∘ closed (σ := σ) id = (fun outline =>
      if outline.listed && outline.id == id then { outline with listed := false } else outline) ∘
      Table.outline := by
    funext table
    by_cases borne : (table.listed && table.id == id) = true
    · rw [Function.comp_apply, closed, bears, if_pos borne]
      exact (if_pos borne).symm
    · rw [Function.comp_apply, closed, bears, if_neg borne]
      exact (if_neg borne).symm
  rw [List.map_map, List.map_map, seen, ← List.map_map, ← List.map_map, same]

end Registry

namespace Room

variable {σ : Type}

/-- The rooms look the same from the table at the place. -/
structure Alike (place : Nat) (one other : Room σ) : Prop where
  defaults : one.registry.defaults = other.registry.defaults
  attempts : one.registry.attempts = other.registry.attempts
  outlines : one.registry.tables.map Table.outline = other.registry.tables.map Table.outline
  table : one.table? place = other.table? place

namespace Alike

variable {place : Nat} {one other third : Room σ}

theorem refl (place : Nat) (room : Room σ) : Alike place room room := ⟨rfl, rfl, rfl, rfl⟩

theorem symm (alike : Alike place one other) : Alike place other one :=
  ⟨alike.defaults.symm, alike.attempts.symm, alike.outlines.symm, alike.table.symm⟩

theorem trans (first : Alike place one other) (second : Alike place other third) :
    Alike place one third :=
  ⟨first.defaults.trans second.defaults, first.attempts.trans second.attempts,
    first.outlines.trans second.outlines, first.table.trans second.table⟩

/-- Only the registry is looked at. -/
theorem of_registry (alike : Alike place one other) {left right : Room σ}
    (first : left.registry = one.registry) (second : right.registry = other.registry) :
    Alike place left right where
  defaults := by rw [first, second, alike.defaults]
  attempts := by rw [first, second, alike.attempts]
  outlines := by rw [first, second, alike.outlines]
  table := by
    have same := alike.table
    rw [table?, table?] at same ⊢
    rw [first, second, same]

theorem length_tables (alike : Alike place one other) :
    one.registry.tables.length = other.registry.tables.length := by
  simpa using congrArg List.length alike.outlines

end Alike

section Elsewhere

variable {place elsewhere : Nat} {room : Room σ} {table changed : Table σ}

theorem outlines_withTable (found : room.table? place = some table)
    (same : changed.outline = table.outline) :
    (room.withTable place changed).registry.tables.map Table.outline =
      room.registry.tables.map Table.outline := by
  obtain ⟨inside, here⟩ := List.getElem?_eq_some_iff.mp found
  simp only [withTable, Registry.put]
  rw [List.map_set, same, ← here, ← List.map_set, List.set_getElem_self]

/-- A change of rolls and source at another table does not show. -/
theorem alike_withTable (apart : elsewhere ≠ place) (found : room.table? elsewhere = some table)
    (same : changed.outline = table.outline) :
    Alike place (room.withTable elsewhere changed) room where
  defaults := rfl
  attempts := rfl
  outlines := outlines_withTable found same
  table := List.getElem?_set_ne apart

end Elsewhere

variable [DrawSource σ]

theorem alike_request_elsewhere {place elsewhere : Nat} (apart : elsewhere ≠ place)
    (options : RollOptions) (request : RollRequest) (room : Room σ) :
    Alike place (room.perform (request.action elsewhere options)).2 room := by
  obtain ⟨absent, serve, serves⟩ := exists_serves (σ := σ) options request
  cases found : room.table? elsewhere with
  | none =>
    rw [serves.missing elsewhere room found]
    exact Alike.refl place room
  | some table =>
    rw [serves.found elsewhere room table found]
    have alike := alike_withTable apart found (serves.outline table)
    exact alike.of_registry (registry_publish? _ _) rfl

omit [DrawSource σ] in
theorem alike_clear_elsewhere {place elsewhere : Nat} (apart : elsewhere ≠ place) (room : Room σ) :
    Alike place (room.clear elsewhere) room := by
  rw [clear]
  split
  · exact Alike.refl place room
  next table found => exact alike_withTable apart found rfl

theorem asks_request (place table : Nat) (options : RollOptions) (request : RollRequest)
    (room : Room σ) :
    (room.step (request.action table options)).asks place = (table == place) := by
  cases request <;> rfl

/-- What is rolled or cleared elsewhere is nothing to the table. -/
theorem alike_of_isElsewhere {place : Nat} {action : Action}
    (elsewhere : action.isElsewhere place = true) (room : Room σ) :
    Alike place (room.perform action).2 room ∧ (room.step action).answerAt? place = none := by
  cases asked : action.request? with
  | some found =>
    obtain ⟨request, table, options⟩ := found
    rw [Action.eq_of_request? asked] at elsewhere ⊢
    have apart : table ≠ place := by
      cases request <;> simpa [RollRequest.action, Action.isElsewhere] using elsewhere
    refine ⟨alike_request_elsewhere apart options request room, ?_⟩
    simp [Step.answerAt?, asks_request, apart]
  | none =>
    cases action with
    | clear table =>
      have apart : table ≠ place := by simpa [Action.isElsewhere] using elsewhere
      refine ⟨alike_clear_elsewhere apart room, ?_⟩
      simp [Step.answerAt?, Step.asks, step, apart]
    | roll | check | damage | command => exact absurd asked (Option.some_ne_none _)
    | _ => exact Bool.noConfusion elsewhere

/-! ### Steps that are left in -/

omit [DrawSource σ] in
/-- The same change of the table in both rooms. -/
theorem alike_withTable_both {place : Nat} {one other : Room σ} {table changed : Table σ}
    (alike : Alike place one other) (found : one.table? place = some table)
    (same : changed.outline = table.outline) :
    Alike place (one.withTable place changed) (other.withTable place changed) where
  defaults := alike.defaults
  attempts := alike.attempts
  outlines := by
    rw [outlines_withTable found same, outlines_withTable (alike.table ▸ found) same]
    exact alike.outlines
  table := by rw [table?_withTable found, table?_withTable (alike.table ▸ found)]

theorem alike_request {place : Nat} {one other : Room σ} (alike : Alike place one other)
    (options : RollOptions) (request : RollRequest) :
    Alike place (one.perform (request.action place options)).2
        (other.perform (request.action place options)).2 ∧
      (one.perform (request.action place options)).1 =
        (other.perform (request.action place options)).1 := by
  obtain ⟨absent, serve, serves⟩ := exists_serves (σ := σ) options request
  cases found : one.table? place with
  | none =>
    rw [serves.missing place one found, serves.missing place other (alike.table ▸ found)]
    exact ⟨alike, rfl⟩
  | some table =>
    rw [serves.found place one table found,
      serves.found place other table (alike.table ▸ found)]
    have changed := alike_withTable_both alike found (serves.outline table)
    exact ⟨changed.of_registry (registry_publish? _ _) (registry_publish? _ _), rfl⟩

omit [DrawSource σ] in
theorem alike_clear {place : Nat} {one other : Room σ} (alike : Alike place one other) :
    Alike place (one.clear place) (other.clear place) := by
  rw [clear, clear, ← alike.table]
  split
  · exact alike
  next table found => exact alike_withTable_both alike found rfl

omit [DrawSource σ] in
theorem alike_create {place : Nat} {one other : Room σ} (alike : Alike place one other)
    (name : Text) (capacity : Option Int) (limits : Option Limits) :
    Alike place (one.create name capacity limits).2 (other.create name capacity limits).2 ∧
      (one.create name capacity limits).1 = (other.create name capacity limits).1 := by
  simp only [create, Registry.create, Registry.createUnder, alike.defaults, alike.attempts]
  split
  · exact ⟨⟨rfl, rfl, alike.outlines, alike.table⟩, rfl⟩
  · refine ⟨⟨rfl, rfl, ?_, ?_⟩, rfl⟩
    · simp only [List.map_append, alike.outlines]
    · have same := alike.table
      simp only [table?] at same ⊢
      rw [List.getElem?_append, List.getElem?_append, alike.length_tables, same]

omit [DrawSource σ] in
theorem alike_delete {place : Nat} {one other : Room σ} (alike : Alike place one other)
    (id : Text) :
    Alike place (one.delete id).2 (other.delete id).2 ∧
      (one.delete id).1 = (other.delete id).1 := by
  refine ⟨⟨alike.defaults, alike.attempts, Registry.outlines_closed id alike.outlines, ?_⟩, ?_⟩
  · have same := alike.table
    simp only [table?, delete, Registry.delete] at same ⊢
    rw [List.getElem?_map, List.getElem?_map, same]
  · simp only [delete, Registry.delete, Registry.isSome_find?,
      Registry.placeOf?_of_outlines alike.outlines]

omit [DrawSource σ] in
/-- What is found under an id that no other table has. -/
theorem alike_find? {place : Nat} {one other : Room σ} (alike : Alike place one other) {id : Text}
    (own : (other.registry.placeOf? id).all (fun found => found == place) = true) :
    one.registry.find? id = other.registry.find? id := by
  rw [Registry.find?_eq_bind, Registry.find?_eq_bind, Registry.placeOf?_of_outlines alike.outlines]
  cases found : other.registry.placeOf? id with
  | none => rfl
  | some spot =>
    have same : spot = place := by simpa [found] using own
    subst same
    exact alike.table

/-- A step that is not elsewhere keeps rooms alike, and what the table is asked it answers alike. -/
theorem alike_of_not_isElsewhere {place : Nat} {one other : Room σ}
    (alike : Alike place one other) {action : Action}
    (here : action.isElsewhere place = false) :
    Alike place (one.perform action).2 (other.perform action).2 ∧
      (one.step action).answerAt? place = (other.step action).answerAt? place := by
  cases asked : action.request? with
  | some found =>
    obtain ⟨request, table, options⟩ := found
    rw [Action.eq_of_request? asked] at here ⊢
    have same : table = place := by
      cases request <;> simpa [RollRequest.action, Action.isElsewhere] using here
    subst same
    obtain ⟨kept, answered⟩ := alike_request alike options request
    refine ⟨kept, Step.answerAt?_congr ?_ fun _ => answered⟩
    rw [asks_request, asks_request]
  | none =>
    have places := Registry.placeOf?_of_outlines alike.outlines
    cases action with
    | roll | check | damage | command => exact absurd asked (Option.some_ne_none _)
    | create name capacity limits =>
      obtain ⟨kept, answered⟩ := alike_create alike name capacity limits
      refine ⟨kept, Step.answerAt?_congr ?_ fun _ => ?_⟩
      · simp only [Step.asks, step, alike.length_tables]
      · simp only [step, perform, answered]
    | find id =>
      refine ⟨alike, Step.answerAt?_congr ?_ fun asked => ?_⟩
      · simp only [Step.asks, step, places]
      · simp only [step, perform]
        rw [alike_find? alike asked]
    | all => exact ⟨alike, rfl⟩
    | delete id =>
      obtain ⟨kept, answered⟩ := alike_delete alike id
      refine ⟨kept, Step.answerAt?_congr ?_ fun _ => ?_⟩
      · simp only [Step.asks, step, places]
      · simp only [step, perform, answered]
    | join | subscribe | unsubscribe | drain | fetch => exact ⟨alike.of_registry rfl rfl, rfl⟩
    | recent table _ | last table =>
      refine ⟨alike, Step.answerAt?_congr rfl fun asked => ?_⟩
      have same : table = place := by simpa [Step.asks, step] using asked
      simp only [step, perform, asking, same, alike.table]
    | clear table =>
      have same : table = place := by simpa [Action.isElsewhere] using here
      subst same
      refine ⟨alike_clear alike, Step.answerAt?_congr rfl fun _ => ?_⟩
      simp only [step, perform, asking, alike.table]

/-- The runs of a session and of its part that is not elsewhere, from rooms that are alike. -/
theorem alike_play {place : Nat} (actions : List Action) {one other : Room σ}
    (alike : Alike place one other) :
    Alike place (play (actions.filter fun action => !action.isElsewhere place) one).2
        (play actions other).2 ∧
      (course (actions.filter fun action => !action.isElsewhere place) one).filterMap
          (Step.answerAt? place) =
        (course actions other).filterMap (Step.answerAt? place) := by
  -- A step that is left out is made in the second room only, and the rooms stay alike.
  induction actions generalizing one other with
  | nil => exact ⟨alike, rfl⟩
  | cons action rest ih =>
    cases elsewhere : action.isElsewhere place with
    | true =>
      obtain ⟨kept, unasked⟩ := alike_of_isElsewhere elsewhere other
      have dropped : (action :: rest).filter (fun action => !action.isElsewhere place) =
          rest.filter fun action => !action.isElsewhere place := by simp [elsewhere]
      rw [dropped, course, List.filterMap_cons_none unasked]
      exact ih (alike.trans kept.symm)
    | false =>
      obtain ⟨kept, answered⟩ := alike_of_not_isElsewhere alike elsewhere
      have retained : (action :: rest).filter (fun action => !action.isElsewhere place) =
          action :: rest.filter fun action => !action.isElsewhere place := by simp [elsewhere]
      obtain ⟨after, answers⟩ := ih kept
      rw [retained, course, course, List.filterMap_cons, List.filterMap_cons, answered, answers]
      exact ⟨after, rfl⟩

/-- A table cannot tell a session from the session without what is rolled and cleared at other
tables: it gives the same answers, and it is the same table in the end, to its history and its
source. Of a source that is tallied the calls are the same. A table that is no longer listed is
no different. -/
theorem play_without_other_tables_eq (place : Nat) (actions : List Action) (room : Room σ) :
    (course (actions.filter fun action => !action.isElsewhere place) room).filterMap
        (Step.answerAt? place) =
      (course actions room).filterMap (Step.answerAt? place) ∧
    (play (actions.filter fun action => !action.isElsewhere place) room).2.table? place =
      (play actions room).2.table? place := by
  obtain ⟨alike, answers⟩ := alike_play actions (Alike.refl place room)
  exact ⟨answers, alike.table⟩

end Room

end Tabletop
