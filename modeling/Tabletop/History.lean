import Tabletop.Fault

/-!
# Histories

The history buffer (specification, 4.5): the last entries of a log, newest first, at most `capacity`
of them.
-/
namespace Tabletop

structure History (α : Type) where
  capacity : Nat
  entries : List α
  deriving DecidableEq, Repr

namespace History

variable {α : Type}

/-- The most entries that can be asked for, the largest signed number of 64 bits. -/
def maxCapacity : Int := 9223372036854775807

def open? (capacity : Int) : Except Fault (History α) :=
  if capacity < 1 then .error (.ofCapacity capacity)
  else if maxCapacity < capacity then .error .oversized
  else .ok ⟨capacity.toNat, []⟩

/-- A history can be opened for so many entries. -/
def Opens (capacity : Int) : Prop := 1 ≤ capacity ∧ capacity ≤ maxCapacity

instance (capacity : Int) : Decidable (Opens capacity) := inferInstanceAs (Decidable (_ ∧ _))

theorem open_of_opens {capacity : Int} (opens : Opens capacity) :
    open? (α := α) capacity = .ok ⟨capacity.toNat, []⟩ := by
  rw [open?, if_neg (Int.not_lt.mpr opens.1), if_neg (Int.not_lt.mpr opens.2)]

theorem open_of_lt {capacity : Int} (low : capacity < 1) :
    open? (α := α) capacity = .error (.ofCapacity capacity) :=
  if_pos low

theorem open_of_gt {capacity : Int} (high : maxCapacity < capacity) :
    open? (α := α) capacity = .error .oversized := by
  have positive : (1 : Int) ≤ maxCapacity := by decide
  rw [open?, if_neg (by omega), if_pos high]

/-- A history that cannot be opened is refused. -/
theorem exists_fault_of_not_opens {capacity : Int} (refused : ¬Opens capacity) :
    ∃ fault, open? (α := α) capacity = .error fault := by
  rcases Int.lt_or_le capacity 1 with low | positive
  · exact ⟨_, open_of_lt low⟩
  · exact ⟨_, open_of_gt (Int.not_le.mp fun bound => refused ⟨positive, bound⟩)⟩

/-- The oldest entry goes when the history is full. -/
def push (history : History α) (entry : α) : History α :=
  { history with entries := (entry :: history.entries).take history.capacity }

/-- At most `limit` entries, newest first; none for a limit below one. -/
def recent (history : History α) (limit : Int) : List α := history.entries.take limit.toNat

def last? (history : History α) : Option α := history.entries.head?

def size (history : History α) : Nat := history.entries.length

def clear (history : History α) : History α := { history with entries := [] }

end History

end Tabletop
