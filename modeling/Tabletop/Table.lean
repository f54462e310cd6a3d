import Tabletop.History
import Tabletop.Roll

/-!
# Tables

The table of a session (specification, 10.1). A table rolls within its own limits with a draw source
of its own, and remembers what it rolled.
-/
namespace Tabletop

/-- A table that is no longer listed can still be used by who holds it. -/
structure Table (σ : Type) where
  id : Text
  name : Text
  limits : Limits
  history : History Roll
  source : σ
  listed : Bool
  deriving Repr

namespace Table

variable {σ : Type} [DrawSource σ]

/-- A roll that succeeds is remembered. One that fails has used up what was drawn for it. -/
def roll (expression : Text) (table : Table σ) : Except Fault Roll × Table σ :=
  let (found, source) := (Roll.ofExpression table.limits expression).run.run table.source
  match found with
  | .ok roll => (.ok roll, { table with source := source, history := table.history.push roll })
  | .error fault => (.error fault, { table with source := source })

end Table

end Tabletop
