import Tabletop.Proofs.Extremes

/-!
# Better dice

A higher face may push another die out of the dice that are kept, and may bring in a die that was
dropped before. The subtotal does not go down for all that. A rule for the highest keeps at least
what the same dice have risen to, and a rule for the lowest kept at most what the same dice have
risen from.
-/
namespace Tabletop

open DrawSource (answers facesOf)

/-- Part of a list goes over into a part of any list that it is related to place by place. -/
theorem exists_sublist_of_forall₂ (related : Int → Int → Prop) [Std.Refl related]
    [IsTrans Int related] {faces others part : List Int} (all : List.Forall₂ related faces others)
    (sub : part.Sublist faces) :
    ∃ matched, List.Forall₂ related part matched ∧ matched.Sublist others := by
  have whole : List.SublistForall₂ related faces others :=
    List.sublistForall₂_iff.mpr ⟨others, all, .refl others⟩
  exact List.sublistForall₂_iff.mp (IsTrans.trans _ _ _ sub.sublistForall₂ whole)

namespace KeepRule

variable {rule : KeepRule} {count : Nat} {faces others : List Int}

/-- A rule prefers the greater of any two sums, or else the lesser. -/
theorem prefers_le_or_ge (rule : KeepRule) :
    (∀ a b, rule.Prefers a b ↔ a ≤ b) ∨ ∀ a b, rule.Prefers a b ↔ b ≤ a := by
  obtain ⟨kind, amount⟩ := rule
  cases kind with
  | keepHighest | dropLowest => exact .inl fun a b => Iff.rfl
  | keepLowest | dropHighest => exact .inr fun a b => Iff.rfl

/-- Where no face is lower, what is kept is not lower either. -/
theorem sum_keptFaces_le (rule : KeepRule) (count : Nat)
    (below : List.Forall₂ (· ≤ ·) faces others) :
    (rule.keptFaces count faces).sum ≤ (rule.keptFaces count others).sum := by
  have equal : (rule.keptFaces count faces).length = (rule.keptFaces count others).length := by
    rw [length_keptFaces, length_keptFaces, below.length_eq]
  rcases rule.prefers_le_or_ge with highest | lowest
  · -- The kept dice have risen to a selection that the rule might have kept.
    obtain ⟨raised, above, part⟩ :=
      exists_sublist_of_forall₂ (· ≤ ·) below (rule.keptFaces_sublist count faces)
    have best := prefers_keptFaces part.subperm (above.length_eq.symm.trans equal)
    exact above.sum_le_sum.trans ((highest _ _).mp best)
  · -- The kept dice have risen from a selection that the rule might have kept.
    obtain ⟨lowered, above, part⟩ := exists_sublist_of_forall₂ (· ≥ ·) below.flip
      (rule.keptFaces_sublist count others)
    have best := prefers_keptFaces part.subperm (above.length_eq.symm.trans equal.symm)
    exact ((lowest _ _).mp best).trans above.flip.sum_le_sum

end KeepRule

namespace DiceTerm

section Dominance

variable {σ τ : Type} [DrawSource σ] [DrawSource τ] {term : DiceTerm} {limit : Int}
  {faces others : List Int}

theorem sum_keptFaces_le (term : DiceTerm) (below : List.Forall₂ (· ≤ ·) faces others) :
    (term.keptFaces faces).sum ≤ (term.keptFaces others).sum := by
  unfold keptFaces
  cases term.keep with
  | none => exact below.sum_le_sum
  | some rule => exact rule.sum_keptFaces_le term.count below

theorem facesOf_eq {source : σ}
    (shown : answers source term.sides term.count = faces.map Document.integer) :
    facesOf source term.sides term.count = faces := by
  rw [facesOf, shown, List.map_map]
  exact List.map_id faces

/-- A term without bursts whose values are faces of its die yields what it keeps of them, if only
the term can be written. -/
theorem yields_iff_of_isFace {source : σ} {subtotal : Int} (plain : term.burst = none)
    (shown : answers source term.sides term.count = faces.map Document.integer)
    (within : ∀ face ∈ faces, term.IsFace face) :
    term.Yields limit source subtotal ↔
      term.isWritable = true ∧ subtotal = (term.keptFaces faces).sum + term.bonus := by
  have accepted : ∀ document ∈ answers source term.sides term.count,
      term.accepts document = true := by
    rw [shown, List.forall_mem_map]
    exact fun face among => decide_eq_true (within face among)
  rw [yields_iff plain, facesOf_eq shown]
  exact and_iff_right accepted

/-- Values that are nowhere lower do not yield less, for a term without bursts whatever it keeps.
Both yield a subtotal unless the term has a number too long to write. -/
theorem yields_le_of_forall₂ (term : DiceTerm) (limit : Int) {source : σ} {other : τ}
    {lower higher : List Int} (plain : term.burst = none)
    (first : answers source term.sides term.count = lower.map Document.integer)
    (second : answers other term.sides term.count = higher.map Document.integer)
    (lowerWithin : ∀ face ∈ lower, term.IsFace face)
    (higherWithin : ∀ face ∈ higher, term.IsFace face)
    (below : List.Forall₂ (· ≤ ·) lower higher) :
    ((∃ subtotal, term.Yields limit source subtotal) ↔ term.isWritable = true) ∧
    ((∃ better, term.Yields limit other better) ↔ term.isWritable = true) ∧
    ∀ subtotal better, term.Yields limit source subtotal → term.Yields limit other better →
      subtotal ≤ better := by
  simp only [yields_iff_of_isFace plain first lowerWithin,
    yields_iff_of_isFace plain second higherWithin]
  refine ⟨by simp, by simp, ?_⟩
  rintro _ _ ⟨-, rfl⟩ ⟨-, rfl⟩
  exact Int.add_le_add_right (term.sum_keptFaces_le below) term.bonus

/-- The lower of two dice is the second, and when that rises it is the first. -/
theorem yields_le_of_forall₂_pairOfDice :
    ∃ subtotal better,
      (pairOfDice.keeping ⟨.keepLowest, 1⟩).Yields 50
        (Supply.cycle [.integer 5, .integer 2] 0) subtotal ∧
      (pairOfDice.keeping ⟨.keepLowest, 1⟩).Yields 50
        (Supply.cycle [.integer 5, .integer 6] 0) better ∧ subtotal ≤ better := by
  have first : answers (Supply.cycle [.integer 5, .integer 2] 0) 6 2 =
      [5, 2].map Document.integer := rfl
  have second : answers (Supply.cycle [.integer 5, .integer 6] 0) 6 2 =
      [5, 6].map Document.integer := rfl
  have within : ∀ face ∈ [5, 2], (1 : Int) ≤ face ∧ face ≤ 6 := by decide
  have betterWithin : ∀ face ∈ [5, 6], (1 : Int) ≤ face ∧ face ≤ 6 := by decide
  have below : List.Forall₂ (· ≤ ·) [(5 : Int), 2] [5, 6] := by decide
  obtain ⟨one, other, ordered⟩ := yields_le_of_forall₂ (pairOfDice.keeping ⟨.keepLowest, 1⟩) 50
    rfl first second within betterWithin below
  have writable : (pairOfDice.keeping ⟨.keepLowest, 1⟩).isWritable = true :=
    isWritable_pairOfDice (by decide)
  obtain ⟨subtotal, yields⟩ := one.mpr writable
  obtain ⟨better, yieldsBetter⟩ := other.mpr writable
  exact ⟨subtotal, better, yields, yieldsBetter, ordered _ _ yields yieldsBetter⟩

end Dominance

end DiceTerm

end Tabletop
