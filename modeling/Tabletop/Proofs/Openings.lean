import Tabletop.Proofs.Listing

/-!
# The registry and the log of its calls

What a registry lists after any number of calls is told by what it answered: the tables that it
said were opened, without those that it said were deleted. The ids are whatever the callers bring,
as long as no two are the same.
-/
namespace Tabletop

/-- The table as it is while it is open. -/
def Table.relisted {σ : Type} (table : Table σ) : Table σ := { table with listed := true }

namespace Registry

variable {σ : Type} {registry : Registry σ}

/-- What a registry is called for. An attempt to open a table brings the id. -/
inductive Call where
  | create (id name : Text) (capacity : Option Int) (limits : Option Limits)
  | find (id : Text)
  | all
  | delete (id : Text)

inductive Outcome (σ : Type) where
  | created (table : Except Fault (Table σ))
  | found (table : Option (Table σ))
  | tables (list : List (Table σ))
  | deleted (wasListed : Bool)

def serve (registry : Registry σ) : Call → Outcome σ × Registry σ
  | .create id name capacity limits =>
    let made := registry.createUnder id name capacity limits
    (.created made.1, made.2)
  | .find id => (.found (registry.find? id), registry)
  | .all => (.tables registry.all, registry)
  | .delete id =>
    let gone := registry.delete id
    (.deleted gone.1, gone.2)

/-- The calls with what came of them, and the registry after them. -/
def run : List Call → Registry σ → List (Call × Outcome σ) × Registry σ
  | [], registry => ([], registry)
  | call :: rest, registry =>
    let served := registry.serve call
    let later := run rest served.2
    ((call, served.1) :: later.1, later.2)

/-- The id that a call brings for a table, whether the table comes to be or not. -/
def Call.brought? : Call → Option Text
  | create id _ _ _ => some id
  | _ => none

def brought (calls : List Call) : List Text := calls.filterMap Call.brought?

def opened? : Call × Outcome σ → Option (Table σ)
  | (.create .., .created (.ok table)) => some table
  | _ => none

/-- The tables that were opened, in order. -/
def opened (log : List (Call × Outcome σ)) : List (Table σ) := log.filterMap opened?

def dropped? : Call × Outcome σ → Option Text
  | (.delete id, .deleted true) => some id
  | _ => none

/-- The ids of the tables that were deleted. -/
def dropped (log : List (Call × Outcome σ)) : List Text := log.filterMap dropped?

/-- Without the tables of these ids. -/
def without (ids : List Text) (tables : List (Table σ)) : List (Table σ) :=
  tables.filter fun table => table.id ∉ ids

@[simp] theorem without_nil (tables : List (Table σ)) : without [] tables = tables := by
  simp [without]

theorem without_append (ids others : List Text) (tables : List (Table σ)) :
    without (ids ++ others) tables = without others (without ids tables) := by
  simp only [without, List.filter_filter, List.mem_append, not_or, Bool.decide_and, Bool.and_comm]

/-! ### One call -/

/-- Only the tables of the id leave the list. -/
theorem all_delete (id : Text) (registry : Registry σ) :
    (registry.delete id).2.all = without [id] registry.all := by
  simp only [delete, all, without, List.mem_singleton]
  induction registry.tables with
  | nil => rfl
  | cons table rest ih =>
    cases listed : table.listed <;> by_cases own : table.id = id <;>
      simp [closed, bears, listed, own, ih]

theorem relisted_closed (id : Text) (table : Table σ) :
    (closed id table).relisted = table.relisted := by
  rw [closed]
  split <;> rfl

/-- Deleting takes a table off the list and changes nothing else about any table. -/
theorem relisted_delete (id : Text) (registry : Registry σ) :
    (registry.delete id).2.tables.map Table.relisted = registry.tables.map Table.relisted := by
  simp only [delete, List.map_map]
  exact List.map_congr_left fun table _ => relisted_closed id table

theorem delete_eq_true_iff {id : Text} :
    (registry.delete id).1 = true ↔ ∃ table ∈ registry.all, table.id = id :=
  isSome_find?_iff

theorem delete_of_false {id : Text} (unknown : (registry.delete id).1 = false) :
    (registry.delete id).2 = registry := by
  have missing : registry.find? id = none := Option.not_isSome_iff_eq_none.mp (by simp_all [delete])
  have same : registry.tables.map (closed id) = registry.tables.map fun table => table :=
    List.map_congr_left fun table member => if_neg (List.find?_eq_none.mp missing table member)
  rw [delete, same, List.map_id']

/-- The table that a call to the registry opens, if it opens one. -/
def opens (registry : Registry σ) (call : Call) : List (Table σ) :=
  (opened? (call, (registry.serve call).1)).toList

/-- The id that a call to the registry takes off the list, if it does. -/
def drops (registry : Registry σ) (call : Call) : List Text :=
  (dropped? (call, (registry.serve call).1)).toList

/-- What one call does to the tables ever opened. -/
theorem relisted_serve (call : Call) (registry : Registry σ) :
    (registry.serve call).2.tables.map Table.relisted =
      registry.tables.map Table.relisted ++ registry.opens call := by
  cases call with
  | create id name capacity limits =>
    rw [opens, serve]
    by_cases within : History.Opens (registry.granted capacity)
    · rw [createUnder_of_opens within]
      exact List.map_append
    · obtain ⟨fault, failed⟩ := exists_fault_of_createUnder within
      rw [failed]
      exact (List.append_nil _).symm
  | find | all => exact (List.append_nil _).symm
  | delete id => exact (relisted_delete id registry).trans (List.append_nil _).symm

/-- What one call does to the list. -/
theorem all_serve (call : Call) (registry : Registry σ) :
    (registry.serve call).2.all =
      without (registry.drops call) (registry.all ++ registry.opens call) := by
  cases call with
  | create id name capacity limits =>
    rw [drops, opens, serve]
    by_cases within : History.Opens (registry.granted capacity)
    · rw [createUnder_of_opens within]
      simp [opened?, dropped?, all, opening, newest]
    · obtain ⟨fault, failed⟩ := exists_fault_of_createUnder within
      rw [failed]
      simp [opened?, dropped?, all]
  | find | all => simp [serve, opens, drops, opened?, dropped?]
  | delete id =>
    cases known : (registry.delete id).1 with
    | true => simpa [serve, opens, drops, opened?, dropped?, known] using all_delete id registry
    | false => simp [serve, opens, drops, opened?, dropped?, known, delete_of_false known]

/-- A table is opened under the id that the call brought. -/
theorem ids_opens_sublist (call : Call) (registry : Registry σ) :
    ((registry.opens call).map Table.id).Sublist call.brought?.toList := by
  cases call with
  | create id name capacity limits =>
    rw [opens, serve]
    by_cases within : History.Opens (registry.granted capacity)
    · rw [createUnder_of_opens within]
      exact List.Sublist.refl _
    · obtain ⟨fault, failed⟩ := exists_fault_of_createUnder within
      rw [failed]
      exact List.nil_sublist _
  | find | all | delete => exact List.Sublist.refl _

/-- What is taken off the list was on it. -/
theorem exists_of_mem_drops {call : Call} {id : Text} (gone : id ∈ registry.drops call) :
    ∃ table ∈ registry.all, table.id = id := by
  cases call with
  | delete asked =>
    cases known : (registry.delete asked).1 with
    | false => simp [drops, serve, dropped?, known] at gone
    | true =>
      have own : id = asked := by simpa [drops, serve, dropped?, known] using gone
      exact own ▸ delete_eq_true_iff.mp known
  | create | find | all => simp [drops, dropped?] at gone

/-! ### Any number of calls -/

theorem filterMap_cons_toList {α β : Type} (f : α → Option β) (a : α) (rest : List α) :
    (a :: rest).filterMap f = (f a).toList ++ rest.filterMap f := by
  cases found : f a <;> simp [found]

theorem opened_run_cons (call : Call) (rest : List Call) (registry : Registry σ) :
    opened (registry.run (call :: rest)).1 =
      registry.opens call ++ opened ((registry.serve call).2.run rest).1 :=
  filterMap_cons_toList _ _ _

theorem dropped_run_cons (call : Call) (rest : List Call) (registry : Registry σ) :
    dropped (registry.run (call :: rest)).1 =
      registry.drops call ++ dropped ((registry.serve call).2.run rest).1 :=
  filterMap_cons_toList _ _ _

/-- The registry never loses a table, nor changes one but for taking it off the list. -/
theorem relisted_run (calls : List Call) (registry : Registry σ) :
    (registry.run calls).2.tables.map Table.relisted =
      registry.tables.map Table.relisted ++ opened (registry.run calls).1 := by
  induction calls generalizing registry with
  | nil => exact (List.append_nil _).symm
  | cons call rest ih =>
    rw [opened_run_cons, ← List.append_assoc, ← relisted_serve]
    exact ih (registry.serve call).2

theorem ids_relisted (tables : List (Table σ)) :
    (tables.map Table.relisted).map Table.id = tables.map Table.id := by
  rw [List.map_map]
  rfl

theorem ids_serve (call : Call) (registry : Registry σ) :
    (registry.serve call).2.tables.map Table.id =
      registry.tables.map Table.id ++ (registry.opens call).map Table.id := by
  rw [← ids_relisted, relisted_serve, List.map_append, ids_relisted]

theorem ids_opened_sublist (calls : List Call) (registry : Registry σ) :
    ((opened (registry.run calls).1).map Table.id).Sublist (brought calls) := by
  induction calls generalizing registry with
  | nil => exact List.Sublist.slnil
  | cons call rest ih =>
    rw [opened_run_cons, List.map_append, brought, filterMap_cons_toList]
    exact (ids_opens_sublist call registry).append (ih (registry.serve call).2)

/-- The ids of the tables of a registry and those that calls bring are all different. -/
def IsDistinct (calls : List Call) (registry : Registry σ) : Prop :=
  (registry.tables.map Table.id ++ brought calls).Nodup

instance (calls : List Call) (registry : Registry σ) : Decidable (registry.IsDistinct calls) :=
  inferInstanceAs (Decidable (List.Nodup _))

namespace IsDistinct

variable {call : Call} {rest calls : List Call}

theorem serve (distinct : registry.IsDistinct (call :: rest)) :
    (registry.serve call).2.IsDistinct rest := by
  rw [IsDistinct, brought, filterMap_cons_toList, ← List.append_assoc] at distinct
  rw [IsDistinct, ids_serve]
  exact distinct.sublist
    (((List.Sublist.refl _).append (ids_opens_sublist call registry)).append (List.Sublist.refl _))

/-- A table that is opened later does not have the id of one that is deleted now. -/
theorem without_opened (distinct : registry.IsDistinct (call :: rest)) :
    without (registry.drops call) (opened ((registry.serve call).2.run rest).1) =
      opened ((registry.serve call).2.run rest).1 := by
  rw [without, List.filter_eq_self]
  intro table later
  simp only [decide_eq_true_eq]
  intro gone
  obtain ⟨old, listed, same⟩ := exists_of_mem_drops gone
  have brings : table.id ∈ brought (call :: rest) := by
    rw [brought, filterMap_cons_toList]
    exact List.mem_append_right _
      ((ids_opened_sublist rest _).subset (List.mem_map_of_mem later))
  exact (List.nodup_append.mp distinct).2.2 old.id
    (List.mem_map_of_mem (List.mem_filter.mp listed).1) table.id brings same

/-- The list after some calls. -/
theorem all_run (distinct : registry.IsDistinct calls) :
    (registry.run calls).2.all =
      without (dropped (registry.run calls).1) (registry.all ++ opened (registry.run calls).1) := by
  induction calls generalizing registry with
  | nil => exact (List.append_nil _).symm.trans (without_nil _).symm
  | cons call rest ih =>
    have later := ih distinct.serve
    rw [all_serve] at later
    rw [opened_run_cons, dropped_run_cons, without_append, ← List.append_assoc]
    refine later.trans ?_
    -- on the left the call's deletion comes before the rest is opened, on the right after it
    congr 1
    rw [without, without, List.filter_append _ (opened _), ← without, ← without,
      distinct.without_opened]

/-- Ids stay unique. -/
theorem nodup_run (distinct : registry.IsDistinct calls) :
    ((registry.run calls).2.tables.map Table.id).Nodup := by
  rw [← ids_relisted, relisted_run, List.map_append, ids_relisted]
  exact distinct.sublist ((List.Sublist.refl _).append (ids_opened_sublist calls registry))

end IsDistinct

/-- The registry lists the tables that were opened and not deleted. What holds after any calls:
the list is the log's, every table ever opened is still as it was, a table is found under its id
exactly while it is listed, deleting takes that table off the list and nothing else, and an attempt
to open a table either adds it at the end or, for a capacity out of bounds, leaves all tables
alone. -/
theorem all_run_eq_log (calls : List Call) (distinct : registry.IsDistinct calls) :
    let log := (registry.run calls).1
    let after := (registry.run calls).2
    after.all = without (dropped log) (registry.all ++ opened log) ∧
    after.tables.map Table.relisted = registry.tables.map Table.relisted ++ opened log ∧
    (∀ id table, after.find? id = some table ↔ table ∈ after.all ∧ table.id = id) ∧
    (∀ id,
      ((after.delete id).1 = true ↔ ∃ table ∈ after.all, table.id = id) ∧
      (after.delete id).2.all = without [id] after.all ∧
      (after.delete id).2.tables.map Table.relisted = after.tables.map Table.relisted ∧
      ((after.delete id).1 = false → (after.delete id).2 = after)) ∧
    ∀ id name capacity limits,
      let made := after.createUnder id name capacity limits
      (after.granted capacity < 1 →
        made = (.error (.ofCapacity (after.granted capacity)),
          { after with attempts := after.attempts + 1 })) ∧
      (History.maxCapacity < after.granted capacity →
        made = (.error .oversized, { after with attempts := after.attempts + 1 })) ∧
      (1 ≤ after.granted capacity → after.granted capacity ≤ History.maxCapacity →
        ∃ table, made.1 = .ok table ∧
          table.id = id ∧ table.name = name ∧ table.history.entries = [] ∧
          made.2.all = after.all ++ [table]) := by
  refine ⟨distinct.all_run, relisted_run calls registry,
    fun id table => find?_eq_some_iff distinct.nodup_run,
    fun id => ⟨delete_eq_true_iff, all_delete id _, relisted_delete id _, delete_of_false⟩,
    fun id name capacity limits => ⟨?_, ?_, ?_⟩⟩
  · exact fun low => createUnder_of_error (History.open_of_lt low) id name limits
  · exact fun high => createUnder_of_error (History.open_of_gt high) id name limits
  · intro positive bound
    rw [createUnder_of_opens ⟨positive, bound⟩]
    exact ⟨_, rfl, rfl, rfl, rfl, List.filter_append _ _⟩

/-- The second attempt fails, and the first table is deleted twice. -/
theorem all_run_eq_log_threeAttempts :
    let registry : Registry Unit := start ⟨50, ⟨100, 1000, 50⟩, fun _ => ()⟩
    let calls : List Call := [.create ['a'] [] none none, .create ['b'] [] (some 0) none,
      .delete ['a'], .delete ['a'], .find ['a'], .create ['c'] [] (some 3) none, .all]
    registry.IsDistinct calls ∧ (registry.run calls).2.all.map Table.id = [['c']] ∧
      dropped (registry.run calls).1 = [['a']] := by
  intro registry calls
  have distinct : registry.IsDistinct calls := by decide
  obtain ⟨listed, _⟩ := all_run_eq_log calls distinct
  refine ⟨distinct, ?_, rfl⟩
  rw [listed]
  rfl

end Registry

end Tabletop
