import Tabletop.Document

/-!
# Draw sources

The random source (specification, 4.2 and 10.7), where dice get their faces from. A source is asked
for a value from 1 to a number of sides and may answer anything; whoever asks has to check the
answer.
-/
namespace Tabletop

class DrawSource (σ : Type) where
  draw : σ → Nat → Document × σ

/-- Sources that need no chance. -/
inductive Supply where
  /-- The values in turn, from the front again after the last. -/
  | cycle (values : List Document) (next : Nat)
  | highest
  | lowest
  /-- One more than the sides. -/
  | beyond
  /-- A linear congruential generator modulo `2 ^ 31` whose low byte is not used. -/
  | congruential (state : Int)
  deriving Repr

namespace Supply

def draw (supply : Supply) (sides : Nat) : Document × Supply :=
  match supply with
  | cycle values next =>
    ((values[next % values.length]?).getD .null, cycle values (next + 1))
  | highest => (.integer sides, highest)
  | lowest => (.integer 1, lowest)
  | beyond => (.integer (sides + 1), beyond)
  | congruential state =>
    let state := (state * 1103515245 + 12345) % 2147483648
    (.integer (1 + state / 256 % sides), congruential state)

instance : DrawSource Supply := ⟨draw⟩

end Supply

/-- A source that keeps count of what it is asked for, the last question first. -/
structure Tally (σ : Type) where
  source : σ
  asked : List Nat

namespace Tally

def start {σ : Type} (source : σ) : Tally σ := ⟨source, []⟩

/-- The sides asked for, in order. -/
def calls {σ : Type} (tally : Tally σ) : List Nat := tally.asked.reverse

instance {σ : Type} [DrawSource σ] : DrawSource (Tally σ) where
  draw tally sides :=
    let (value, source) := DrawSource.draw tally.source sides
    (value, ⟨source, sides :: tally.asked⟩)

end Tally

end Tabletop
