/-!
# Spans of code points

Character classes are finite unions of spans; letter cases are runs of code points that move by
one common distance.
-/
namespace Tabletop.Text

/-- A first and a last code point, both included. -/
abbrev Span := Nat × Nat

/-- The character lies in one of the spans. -/
def within (spans : List Span) (c : Char) : Bool :=
  spans.any fun span => span.1 ≤ c.toNat && c.toNat ≤ span.2

/-- The code points `first`, `first + step`, … `last`, each moved by `shift`. -/
structure Run where
  first : Nat
  last : Nat
  step : Nat
  shift : Int
  deriving DecidableEq, Repr

def Run.covers (run : Run) (code : Nat) : Bool :=
  run.first ≤ code && code ≤ run.last && (code - run.first) % run.step == 0

/-- The character moved by the first run that covers it, if one does. -/
def moved? (runs : List Run) (c : Char) : Option Char :=
  (runs.find? (·.covers c.toNat)).map fun run => Char.ofNat ((c.toNat : Int) + run.shift).toNat

end Tabletop.Text
