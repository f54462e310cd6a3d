import Tabletop.Proofs.Exchanges

/-!
# Histories and what was sent back

While every roll and every table that is opened can be answered, the history of an open table holds
the latest of the rolls that were sent back for it since it was last cleared, and the service reads
its answers about the table off them. A table that is closed is not found again.
-/
namespace Tabletop

/-- What the history holds can be sent, and so can its size. -/
structure History.IsSendable (history : History Roll) : Prop where
  capacity : 1 ≤ history.capacity
  short : Numeral.fits history.capacity = true
  size : history.size ≤ history.capacity
  rolls : ∀ roll ∈ history.entries,
    (roll.document .camel).isWritable = true ∧ roll.isWritable = true

namespace History.IsSendable

variable {history : History Roll}

theorem push (sendable : history.IsSendable) {roll : Roll}
    (writable : (roll.document .camel).isWritable = true ∧ roll.isWritable = true) :
    (history.push roll).IsSendable where
  capacity := sendable.capacity
  short := sendable.short
  size := List.length_take_le _ _
  rolls := by
    intro other member
    rcases List.mem_cons.mp (List.mem_of_mem_take member) with rfl | before
    · exact writable
    · exact sendable.rolls other before

theorem clear (sendable : history.IsSendable) : history.clear.IsSendable where
  capacity := sendable.capacity
  short := sendable.short
  size := Nat.zero_le _
  rolls := List.forall_mem_nil _

end History.IsSendable

/-- The history holds the latest of some rolls, and they can be sent. -/
structure History.Recalls (rolls : List Roll) (history : History Roll) : Prop where
  entries : history.entries = rolls.take history.capacity
  sendable : history.IsSendable

namespace History.Recalls

variable {rolls : List Roll} {history : History Roll}

theorem push (recalls : history.Recalls rolls) {roll : Roll}
    (writable : (roll.document .camel).isWritable = true ∧ roll.isWritable = true) :
    (history.push roll).Recalls (roll :: rolls) where
  entries := by
    rw [History.push, recalls.entries]
    cases history.capacity with
    | zero => rfl
    | succ n => simp [List.take_take]
  sendable := recalls.sendable.push writable

theorem clear (recalls : history.Recalls rolls) : history.clear.Recalls [] where
  entries := List.take_nil.symm
  sendable := recalls.sendable.clear

theorem size_eq (recalls : history.Recalls rolls) :
    history.size = min history.capacity rolls.length := by
  rw [size, recalls.entries, List.length_take]

theorem recent_eq (recalls : history.Recalls rolls) (limit : Int) :
    history.recent limit = rolls.take (min limit.toNat history.capacity) := by
  rw [recent, recalls.entries, List.take_take]

theorem last?_eq (recalls : history.Recalls rolls) : history.last? = rolls.head? := by
  have positive := recalls.sendable.capacity
  rw [last?, recalls.entries, List.head?_take, if_neg (by omega)]

/-- The latest roll is in the history, so it can be sent. -/
theorem sends_head (recalls : history.Recalls rolls) {roll : Roll}
    (head : rolls.head? = some roll) :
    (roll.document .camel).isWritable = true ∧ roll.isWritable = true := by
  rw [← recalls.last?_eq] at head
  exact recalls.sendable.rolls roll (List.mem_of_head? head)

end History.Recalls

namespace Registry

variable {σ : Type} {before after : Registry σ} {move : Move σ} {id : Text}

section Records

variable (records : after.tables.map Table.record = before.tables.map Table.record)
include records

theorem map_of_records {β : Type} (f : TableOutline × History Roll → β) :
    after.tables.map (fun table => f table.record) =
      before.tables.map (fun table => f table.record) := by
  have same := congrArg (List.map f) records
  rwa [List.map_map, List.map_map] at same

theorem find?_of_records (id : Text) :
    (after.find? id).map Table.record = (before.find? id).map Table.record := by
  rw [find?_eq_bind, find?_eq_bind, placeOf?_of_outlines (map_of_records records Prod.fst)]
  cases before.placeOf? id with
  | none => rfl
  | some place =>
    have here := congrArg (·[place]?) records
    rwa [List.getElem?_map, List.getElem?_map] at here

end Records

namespace Moves

theorem ids_of_put {place : Nat} {table changed : Table σ}
    (here : before.tables[place]? = some table) (same : changed.id = table.id) :
    (before.put place changed).tables.map Table.id = before.tables.map Table.id := by
  obtain ⟨inside, rfl⟩ := List.getElem?_eq_some_iff.mp here
  rw [put, List.map_set, same, ← List.map_set, List.set_getElem_self]

theorem attempts_le (moves : before.Moves move after) : before.attempts ≤ after.attempts := by
  cases moves with
  | rest _ attempts => exact attempts
  | opened => exact Nat.le_succ _
  | closed | rolled | cleared => exact Nat.le_refl _

theorem isSpent (moves : before.Moves move after) (spent : before.IsSpent id) :
    after.IsSpent id := by
  obtain ⟨n, bound, number⟩ := spent
  exact ⟨n, Nat.le_trans bound moves.attempts_le, number⟩

theorem numbered (moves : before.Moves move after) (numbered : before.Numbered) :
    after.Numbered := by
  cases moves with
  | rest records attempts =>
    exact numbered.of_ids (map_of_records records fun record => record.1.id) attempts
  | opened => exact numbered.append rfl
  | closed id =>
    refine numbered.of_ids ?_ (Nat.le_refl _)
    have same : Table.id (σ := σ) ∘ Registry.closed id = Table.id := by
      funext table
      rw [Function.comp_apply, Registry.closed]
      split <;> rfl
    rw [delete, List.map_map, same]
  | rolled _ here | cleared _ here =>
    exact numbered.of_ids (ids_of_put here rfl) (Nat.le_refl _)

end Moves

/-- The history of the open table of an id. -/
def history? (id : Text) (registry : Registry σ) : Option (History Roll) :=
  (registry.find? id).map Table.history

end Registry

namespace Move

variable {σ : Type}

/-- What is in the history of an id after the move. -/
def held (id : Text) (history? : Option (History Roll)) : Move σ → Option (History Roll)
  | rest => history?
  | opened table => if table.id = id then some table.history else history?
  | closed own => if own = id then none else history?
  | rolled own roll => if own = id then history?.map (·.push roll) else history?
  | cleared own => if own = id then history?.map History.clear else history?

def keepsOpen (id : Text) (isOpen : Bool) (move : Move σ) : Bool :=
  if move.opened? = some id then true else isOpen && !move.closes id

def logged (id : Text) (rolls : List Roll) (move : Move σ) : List Roll :=
  if move.clears id then [] else (move.roll? id).toList ++ rolls

end Move

namespace Registry

variable {σ : Type} {registry before after : Registry σ} {move : Move σ} {id : Text}

theorem find?_of_place {place : Nat} {table : Table σ} (found : registry.placeOf? id = some place)
    (here : registry.tables[place]? = some table) : registry.find? id = some table := by
  rw [find?_eq_bind, found]
  exact here

theorem history?_put {place : Nat} {table changed : Table σ}
    (found : registry.placeOf? id = some place) (here : registry.tables[place]? = some table)
    (same : changed.outline = table.outline) (other : Text) :
    (registry.put place changed).history? other =
      if id = other then some changed.history else registry.history? other := by
  rw [history?, find?_put found here same]
  by_cases own : id = other
  · rw [if_pos own.symm, if_pos own]
    rfl
  · rw [if_neg (Ne.symm own), if_neg own]
    rfl

theorem not_isSpent_next (registry : Registry σ) :
    ¬registry.IsSpent (idOf (registry.attempts + 1)) := by
  rintro ⟨n, bound, same⟩
  have := idOf_injective same
  omega

/-- Every move does to the history of an id what it says. -/
theorem Moves.history? (moves : before.Moves move after) (numbered : before.Numbered) (id : Text) :
    after.history? id = move.held id (before.history? id) := by
  cases moves with
  | rest records =>
    have same := congrArg (Option.map Prod.snd) (find?_of_records records id)
    rwa [Option.map_map, Option.map_map] at same
  | @opened name capacity limits opens =>
    rw [Registry.history?, find?_append rfl, Move.held]
    split
    next own =>
      have free : before.find? id = none := by
        rw [Option.eq_none_iff_forall_not_mem]
        intro table found
        have spent := numbered.isSpent_of_find? found
        rw [← own] at spent
        exact before.not_isSpent_next spent
      rw [free]
      rfl
    next => rw [Option.or_none]; rfl
  | closed own =>
    rw [Registry.history?, find?_delete, Move.held]
    by_cases same : own = id
    · rw [if_pos same.symm, if_pos same]
      rfl
    · rw [if_neg (Ne.symm same), if_neg same]
      rfl
  | rolled found here | cleared found here =>
    refine (history?_put found here ?_ id).trans ?_
    · rfl
    rw [Move.held]
    split
    next own =>
      rw [Registry.history?, ← own, find?_of_place found here]
      rfl
    next => rfl

end Registry

/-- A table that is open has a history that recalls the rolls. -/
inductive Holds (rolls : List Roll) : Bool → Option (History Roll) → Prop
  | closed : Holds rolls false none
  | opened {history : History Roll} (recalls : history.Recalls rolls) :
    Holds rolls true (some history)

namespace Registry

variable {σ : Type} {before after : Registry σ} {move : Move σ} {id : Text} {isOpen : Bool}
  {rolls : List Roll}

/-- What is known of the tables while the rolls of the table of an id are counted. -/
structure Ledger (id : Text) (isOpen : Bool) (rolls : List Roll) (registry : Registry σ) :
    Prop where
  numbered : registry.Numbered
  unspent : ¬registry.IsSpent id → rolls = []
  holds : Holds rolls isOpen (registry.history? id)

theorem ledger_start (id : Text) (defaults : TableDefaults σ) :
    (start defaults).Ledger id false [] where
  numbered := numbered_start defaults
  unspent := fun _ => rfl
  holds := .closed

namespace Ledger

/-- A table whose id is new has rolled nothing so far. -/
theorem rolls_of_next (ledger : before.Ledger (idOf (before.attempts + 1)) isOpen rolls) :
    rolls = [] :=
  ledger.unspent before.not_isSpent_next

theorem holds_of_moves (ledger : before.Ledger id isOpen rolls) (moves : before.Moves move after)
    (sendable : move.IsSendable) :
    Holds (move.logged id rolls) (move.keepsOpen id isOpen) (after.history? id) := by
  have holds := ledger.holds
  rw [moves.history? ledger.numbered]
  generalize before.history? id = history? at holds
  simp only [Move.logged, Move.keepsOpen, Move.held]
  -- A move of another id changes neither the history nor the rolls; an id that is opened is new.
  cases moves with
  | rest => simpa
  | @opened name capacity limits opens =>
    by_cases own : (before.newest name capacity limits).id = id
    · subst own
      have least : 1 ≤ before.granted capacity := opens.1
      have positive : 1 ≤ (before.newest name capacity limits).history.capacity :=
        show 1 ≤ (before.granted capacity).toNat by omega
      have empty : (before.newest name capacity limits).history.Recalls [] :=
        ⟨List.take_nil.symm, positive, sendable, Nat.zero_le _, List.forall_mem_nil _⟩
      simpa [ledger.rolls_of_next] using Holds.opened empty
    · simpa [own]
  | closed own =>
    by_cases same : own = id
    · simpa [same] using Holds.closed
    · simpa [same, beq_eq_false_iff_ne.mpr same]
  | @rolled own place table roll source found here =>
    by_cases same : own = id
    · cases holds with
      | closed => simpa [same] using Holds.closed
      | opened recalls => simpa [same] using Holds.opened (recalls.push sendable)
    · simpa [same]
  | @cleared own place table found here =>
    by_cases same : own = id
    · cases holds with
      | closed => simpa [same] using Holds.closed
      | opened recalls => simpa [same] using Holds.opened recalls.clear
    · simpa [same, beq_eq_false_iff_ne.mpr same]

theorem of_moves (ledger : before.Ledger id isOpen rolls) (moves : before.Moves move after)
    (sendable : move.IsSendable) :
    after.Ledger id (move.keepsOpen id isOpen) (move.logged id rolls) where
  numbered := moves.numbered ledger.numbered
  unspent := by
    intro free
    have before_free : ¬before.IsSpent id := fun spent => free (moves.isSpent spent)
    rw [ledger.unspent before_free, Move.logged]
    cases moves with
    | @rolled own place table roll source found here =>
      have apart : own ≠ id := by
        rintro rfl
        exact before_free (ledger.numbered.isSpent_of_find? (find?_of_place found here))
      simp [Move.roll?, apart]
    | _ => simp [Move.roll?]
  holds := ledger.holds_of_moves moves sendable

end Ledger

end Registry

namespace Service

variable {σ : Type} [DrawSource σ] {id : Text} {isOpen : Bool} {rolls : List Roll}

/-- None of the requests failed late. -/
def OnTime (exchanges : List (Exchange σ)) : Prop :=
  ∀ exchange ∈ exchanges, ¬exchange.request.FailsLate exchange.before

namespace Exchange

variable {exchange : Exchange σ}

theorem ledger (onTime : ¬exchange.request.FailsLate exchange.before)
    (ledger : exchange.before.registry.Ledger id isOpen rolls) :
    exchange.after.registry.Ledger id (keepsOpen id isOpen exchange)
      (logged id (Exchange.roll? id) rolls exchange) := by
  obtain ⟨move, makes⟩ := exchange.exists_makes
  have after := ledger.of_moves makes.moves (makes.sendable onTime)
  rw [keepsOpen, logged, makes.opened? onTime, makes.closes, makes.clears, makes.roll? onTime]
  exact after

/-- The result that is sent back is that of the roll. -/
theorem result?_eq_map (onTime : ¬exchange.request.FailsLate exchange.before) (id : Text) :
    exchange.result? id = (exchange.roll? id).map (Roll.document .camel) := by
  obtain ⟨move, makes⟩ := exchange.exists_makes
  rw [makes.result? onTime, makes.roll? onTime]

end Exchange

theorem ledger_serve (requests : List Request) {room : Room σ}
    (ledger : room.registry.Ledger id isOpen rolls) (onTime : OnTime (exchanges requests room)) :
    (serve requests room).registry.Ledger id
      ((exchanges requests room).foldl (keepsOpen id) isOpen)
      ((exchanges requests room).foldl (logged id (Exchange.roll? id)) rolls) := by
  -- The ledger is what every exchange keeps, so the rolls before the first request are arbitrary.
  induction requests generalizing room isOpen rolls with
  | nil => exact ledger
  | cons request rest ih =>
    obtain ⟨first, others⟩ := List.forall_mem_cons.mp onTime
    exact ih (Exchange.ledger first ledger) others

/-- What was sent back are the documents of the rolls. -/
theorem resultsOf_eq_map {exchanges : List (Exchange σ)} (onTime : OnTime exchanges) (id : Text) :
    resultsOf id exchanges = (rollsOf id exchanges).map (Roll.document .camel) := by
  have generally (rolls : List Roll) :
      exchanges.foldl (logged id (Exchange.result? id)) (rolls.map (Roll.document .camel)) =
        (exchanges.foldl (logged id (Exchange.roll? id)) rolls).map (Roll.document .camel) := by
    induction exchanges generalizing rolls with
    | nil => rfl
    | cons exchange rest ih =>
      obtain ⟨first, others⟩ := List.forall_mem_cons.mp onTime
      have step : logged id (Exchange.result? id) (rolls.map (Roll.document .camel)) exchange =
          (logged id (Exchange.roll? id) rolls exchange).map (Roll.document .camel) := by
        rw [logged, logged, Exchange.result?_eq_map first]
        split
        · rfl
        · rw [List.map_append, Option.toList_map]
      rw [List.foldl_cons, List.foldl_cons, step, ih others]
  exact generally []

end Service

end Tabletop
