import Mathlib.Data.List.DropRight
import Tabletop.History

/-!
# A history as a view of a plain log

A history answers like a log that forgets nothing until it is cleared, if of that log only the last
`capacity` entries are looked at. Nothing else is assumed of the entries, and the answers are those
of every sequence of operations.
-/
namespace Tabletop.History

variable {α : Type}

/-- What can be asked of a history. -/
inductive Operation (α : Type) where
  | push (entry : α)
  | recent (limit : Int)
  | last
  | size
  | clear

/-- What comes back. -/
inductive Reading (α : Type) where
  | done
  | entries (list : List α)
  | latest (entry : Option α)
  | count (n : Nat)
  deriving DecidableEq

def perform (history : History α) : Operation α → Reading α × History α
  | .push entry => (.done, history.push entry)
  | .recent limit => (.entries (history.recent limit), history)
  | .last => (.latest history.last?, history)
  | .size => (.count history.size, history)
  | .clear => (.done, history.clear)

def run : List (Operation α) → History α → List (Reading α) × History α
  | [], history => ([], history)
  | operation :: rest, history =>
    let (reading, history) := history.perform operation
    let (readings, history) := run rest history
    (reading :: readings, history)

namespace Operation

def pushed? : Operation α → Option α
  | push entry => some entry
  | _ => none

def isClear : Operation α → Bool
  | clear => true
  | _ => false

def isQuestion : Operation α → Bool
  | push _ | clear => false
  | recent _ | last | size => true

/-- What an operation makes of a plain log. -/
def logged (log : List α) : Operation α → List α
  | push entry => log ++ [entry]
  | clear => []
  | _ => log

/-- What is answered by the last `capacity` entries of a plain log, read backwards. -/
def reading (capacity : Nat) (log : List α) : Operation α → Reading α
  | push _ | clear => .done
  | recent limit => .entries ((log.rtake capacity).reverse.take (max limit 0).toNat)
  | last => .latest log.getLast?
  | size => .count (min capacity log.length)

/-- The answers of a plain log to some operations in turn. -/
def readings (capacity : Nat) : List (Operation α) → List α → List (Reading α)
  | [], _ => []
  | operation :: rest, log =>
    operation.reading capacity log :: readings capacity rest (operation.logged log)

end Operation

/-- The entries that were pushed after the last time the history was cleared, oldest first. -/
def pushedSince (operations : List (Operation α)) : List α :=
  (operations.rtakeWhile fun operation => !operation.isClear).filterMap Operation.pushed?

theorem pushedSince_append (operations : List (Operation α)) (operation : Operation α) :
    pushedSince (operations ++ [operation]) = operation.logged (pushedSince operations) := by
  cases operation with
  | clear =>
    rw [pushedSince, List.rtakeWhile_concat_neg _ _ _ (by simp [Operation.isClear])]
    rfl
  | push entry =>
    rw [pushedSince, List.rtakeWhile_concat_pos _ _ _ rfl, List.filterMap_append]
    rfl
  | recent | last | size =>
    rw [pushedSince, List.rtakeWhile_concat_pos _ _ _ rfl, List.filterMap_append]
    exact List.append_nil _

/-- A plain log holds what was pushed since it was last cleared. -/
theorem foldl_logged (operations : List (Operation α)) :
    operations.foldl Operation.logged [] = pushedSince operations := by
  induction operations using List.reverseRecOn with
  | nil => rfl
  | append_singleton rest operation ih => rw [List.foldl_concat, ih, pushedSince_append]

/-- The history shows the end of a log that has forgotten nothing. -/
structure Shows (capacity : Nat) (log : List α) (history : History α) : Prop where
  room : history.capacity = capacity
  entries : history.entries.reverse = log.rtake capacity

namespace Shows

variable {capacity : Nat} {log : List α} {history : History α}

theorem entries_eq (shows : history.Shows capacity log) :
    history.entries = (log.rtake capacity).reverse := by
  rw [← shows.entries, List.reverse_reverse]

theorem size_eq (shows : history.Shows capacity log) :
    history.size = min capacity log.length := by
  rw [History.size, ← List.length_reverse, shows.entries, List.rtake, List.length_drop]
  omega

theorem push (shows : history.Shows capacity log) (entry : α) :
    (history.push entry).Shows capacity (log ++ [entry]) where
  room := shows.room
  entries := by
    rw [History.push, shows.entries_eq, shows.room]
    simp only [List.rtake_eq_reverse_take_reverse, List.reverse_reverse, List.reverse_append,
      List.reverse_singleton, List.singleton_append]
    cases capacity with
    | zero => rfl
    | succ n => simp [List.take_take]

theorem clear (shows : history.Shows capacity log) : history.clear.Shows capacity [] where
  room := shows.room
  entries := by simp [History.clear, List.rtake]

theorem logged (shows : history.Shows capacity log) (operation : Operation α) :
    (history.perform operation).2.Shows capacity (operation.logged log) := by
  cases operation with
  | push entry => exact shows.push entry
  | clear => exact shows.clear
  | recent | last | size => exact shows

theorem reading (shows : history.Shows capacity log) (positive : 1 ≤ capacity)
    (operation : Operation α) :
    (history.perform operation).1 = operation.reading capacity log := by
  cases operation with
  | push | clear => rfl
  | recent limit =>
    have bound : limit.toNat = (max limit 0).toNat := by omega
    rw [perform, History.recent, shows.entries_eq, bound]
    rfl
  | last =>
    have latest : history.last? = log.getLast? := by
      rw [last?, shows.entries_eq, List.rtake_eq_reverse_take_reverse, List.reverse_reverse,
        List.head?_take, if_neg (by omega), List.head?_reverse]
    exact congrArg Reading.latest latest
  | size => exact congrArg Reading.count shows.size_eq

/-- Step by step, the history answers what the log answers and goes on showing it. -/
theorem run (shows : history.Shows capacity log) (positive : 1 ≤ capacity)
    (operations : List (Operation α)) :
    (run operations history).1 = Operation.readings capacity operations log ∧
      (History.run operations history).2.Shows capacity
        (operations.foldl Operation.logged log) := by
  induction operations generalizing history log with
  | nil => exact ⟨rfl, shows⟩
  | cons operation rest ih =>
    obtain ⟨readings, after⟩ := ih (shows.logged operation)
    refine ⟨?_, after⟩
    rw [Operation.readings, ← readings, ← shows.reading positive operation]
    rfl

end Shows

/-- What a push leaves of a history, oldest first: all of it, or all but the oldest entry if the
history was full. -/
theorem reverse_entries_push {history : History α} (positive : 1 ≤ history.capacity)
    (bounded : history.size ≤ history.capacity) (entry : α) :
    (history.push entry).entries.reverse =
      history.entries.reverse.drop (if history.size = history.capacity then 1 else 0) ++
        [entry] := by
  obtain ⟨room, found⟩ := Nat.exists_eq_add_of_le' positive
  rw [History.push, found, List.take_succ_cons, List.reverse_cons, List.reverse_take]
  congr 2
  rw [size] at bounded ⊢
  split <;> omega

/-- A history with room for at least one entry answers like a plain log of which only the last
`capacity` entries count. It holds exactly these, never more of them, and none twice; a push takes
away the oldest one or nothing, and a question takes away nothing. Such a history is opened up to
the most entries that can be asked for. -/
theorem run_eq_readings {capacity : Int} (positive : 1 ≤ capacity) :
    let empty : History α := ⟨capacity.toNat, []⟩
    (open? capacity = if capacity ≤ maxCapacity then .ok empty else .error .oversized) ∧
      ∀ operations : List (Operation α),
        let log := pushedSince operations
        let history := (run operations empty).2
        (run operations empty).1 = Operation.readings capacity.toNat operations [] ∧
        operations.foldl Operation.logged [] = log ∧
        history.capacity = capacity ∧
        history.entries.reverse = log.rtake capacity.toNat ∧
        history.size = min capacity.toNat log.length ∧
        (∀ limit : Int, history.recent limit =
          (log.rtake capacity.toNat).reverse.take (max limit 0).toNat) ∧
        history.last? = log.getLast? ∧
        (∀ operation, operation.isQuestion = true → (history.perform operation).2 = history) ∧
        ∀ entry, (history.push entry).entries.reverse =
          history.entries.reverse.drop (if history.size = history.capacity then 1 else 0) ++
            [entry] := by
  have enough : 1 ≤ capacity.toNat := by omega
  intro empty
  have start : empty.Shows capacity.toNat [] := ⟨rfl, by simp [empty]⟩
  refine ⟨?_, fun operations => ?_⟩
  · split
    next bound => exact open_of_opens ⟨positive, bound⟩
    next high => exact open_of_gt (Int.not_le.mp high)
  obtain ⟨readings, shows⟩ := start.run enough operations
  rw [foldl_logged] at shows
  have size := shows.size_eq
  refine ⟨readings, foldl_logged operations, ?_, shows.entries, size, ?_, ?_, ?_, ?_⟩
  · rw [shows.room]
    omega
  · intro limit
    exact Reading.entries.inj (shows.reading enough (.recent limit))
  · exact Reading.latest.inj (shows.reading enough .last)
  · intro operation question
    cases operation with
    | push | clear => exact Bool.noConfusion question
    | recent | last | size => rfl
  · exact reverse_entries_push (by rw [shows.room]; exact enough)
      (by rw [shows.room, size]; exact Nat.min_le_left _ _)

theorem run_eq_readings_smallHistory :
    (1 : Int) ≤ 2 ∧ ∃ empty : History Nat, open? 2 = .ok empty ∧
      (run [.push 7, .push 8, .push 9, .recent 5, .recent (-1), .last, .size, .clear, .last,
          .push 6, .recent 5] empty).1 =
        [.done, .done, .done, .entries [9, 8], .entries [], .latest (some 9), .count 2, .done,
          .latest none, .done, .entries [6]] := by
  have positive : (1 : Int) ≤ 2 := by decide
  obtain ⟨opened, answers⟩ := run_eq_readings (α := Nat) positive
  refine ⟨positive, _, opened, ?_⟩
  rw [(answers _).1]
  decide

end Tabletop.History
