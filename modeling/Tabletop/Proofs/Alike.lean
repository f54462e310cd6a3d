import Tabletop.Proofs.Rolled

/-!
# Rolling alike

Two rollings are alike if from every source they leave the same source behind and either both fail
with the same kind of fault or both give related results. Terms that differ in bonus and source
alone are rolled alike, as long as both of them can be written.
-/
namespace Tabletop

/-- Both outcomes are faults of one kind, or both are results that are related. -/
inductive Matches {α β : Type} (related : α → β → Prop) : Except Fault α → Except Fault β → Prop
  | fault {first second : Fault} (same : first.kind = second.kind) :
    Matches related (.error first) (.error second)
  | result {a : α} {b : β} (holds : related a b) : Matches related (.ok a) (.ok b)

theorem Matches.refl {α : Type} (outcome : Except Fault α) : Matches Eq outcome outcome := by
  cases outcome with
  | error fault => exact .fault rfl
  | ok a => exact .result rfl

namespace Rolling

variable {σ α β γ δ : Type}

/-- From every source: related outcomes, and the same source left over. -/
def Alike (related : α → β → Prop) (first : Rolling σ α) (second : Rolling σ β) : Prop :=
  ∀ source, Matches related (first.run.run source).1 (second.run.run source).1 ∧
    (first.run.run source).2 = (second.run.run source).2

namespace Alike

variable {related : α → β → Prop} {first : Rolling σ α} {second : Rolling σ β}

theorem refl (rolling : Rolling σ α) : Alike Eq rolling rolling := fun _ =>
  ⟨Matches.refl _, rfl⟩

theorem pure {a : α} {b : β} (holds : related a b) :
    Alike related (Pure.pure a : Rolling σ α) (Pure.pure b : Rolling σ β) := fun _ =>
  ⟨.result holds, rfl⟩

theorem throw {one other : Fault} (same : one.kind = other.kind) :
    Alike related (throw one : Rolling σ α) (MonadExcept.throw other : Rolling σ β) := fun _ =>
  ⟨.fault same, rfl⟩

/-- Alike first steps with alike next steps are alike. -/
theorem bind {onward : γ → δ → Prop} {next : α → Rolling σ γ} {after : β → Rolling σ δ}
    (alike : Alike related first second)
    (each : ∀ a b, related a b → Alike onward (next a) (after b)) :
    Alike onward (first >>= next) (second >>= after) := by
  intro source
  obtain ⟨outcome, left⟩ := alike source
  rw [run_bind, run_bind]
  generalize (first.run.run source).1 = one at outcome ⊢
  generalize (second.run.run source).1 = other at outcome ⊢
  cases outcome with
  | fault same => exact ⟨.fault same, left⟩
  | result holds =>
    simp only [left]
    exact each _ _ holds _

/-- Naming another expression in a fault does not change its kind. -/
theorem adapt (expression text : Text) (alike : Alike related first second) :
    Alike related (first.adapt (Fault.within expression)) (second.adapt (Fault.within text)) := by
  intro source
  obtain ⟨outcome, left⟩ := alike source
  rw [run_adapt, run_adapt]
  refine ⟨?_, left⟩
  generalize (first.run.run source).1 = one at outcome ⊢
  generalize (second.run.run source).1 = other at outcome ⊢
  cases outcome with
  | fault same => exact .fault (by simpa using same)
  | result holds => exact .result holds

end Alike

end Rolling

/-- The part of a dice term that decides how its dice fall. -/
def DiceTerm.shape (term : DiceTerm) : Nat × Nat × Option KeepRule × Option Int :=
  (term.count, term.sides, term.keep, term.burst)

namespace DiceTerm

open Rolling

variable {σ : Type} [DrawSource σ] {first second : DiceTerm}

theorem shape_iff : first.shape = second.shape ↔ first.count = second.count ∧
    first.sides = second.sides ∧ first.keep = second.keep ∧ first.burst = second.burst := by
  simp [shape]

theorem kind_ofRefusedDraw (value : Document) (same : first.sides = second.sides) :
    (Fault.ofRefusedDraw first value).kind = (Fault.ofRefusedDraw second value).kind := by
  rw [Fault.ofRefusedDraw, Fault.ofRefusedDraw, same, Fault.worded, Fault.worded]
  split <;> rfl

/-- A fault that quotes a term is of another kind only where the term cannot be written. -/
theorem kind_ofBursts (limit : Int) (one : first.isWritable = true)
    (other : second.isWritable = true) :
    (Fault.ofBursts first limit).kind = (Fault.ofBursts second limit).kind := by
  rw [Fault.ofBursts, Fault.ofBursts, one, other, Fault.worded, Fault.worded]
  split <;> rfl

theorem face_alike (same : first.sides = second.sides) :
    Alike Eq (first.face : Rolling σ Int) second.face := by
  rw [face, face, same]
  refine Alike.bind (Alike.refl _) fun value other equal => ?_
  subst equal
  split
  · split
    · exact Alike.pure rfl
    · exact Alike.throw (kind_ofRefusedDraw _ same)
  · exact Alike.throw (kind_ofRefusedDraw _ same)

/-- What is asked of the source depends on the sides alone. -/
theorem faces_alike (same : first.sides = second.sides) (n : Nat) :
    Alike Eq (first.faces n : Rolling σ (List Int)) (second.faces n) := by
  induction n with
  | zero => exact Alike.pure rfl
  | succ n ih =>
    refine Alike.bind (face_alike same) fun face other equal => ?_
    refine Alike.bind ih fun rest others equals => ?_
    rw [equal, equals]
    exact Alike.pure rfl

/-- The induction is on the dice still due; both sides reach the limit together. -/
theorem extras_alike (limit : Int) (same : first.sides = second.sides)
    (one : first.isWritable = true) (other : second.isWritable = true) (done due : Nat) :
    Alike Eq (first.extras limit done due : Rolling σ (List Int))
      (second.extras limit done due) := by
  induction due generalizing done with
  | zero => exact Alike.pure rfl
  | succ due ih =>
    rw [extras, extras]
    split
    · exact Alike.throw (kind_ofBursts limit one other)
    · refine Alike.bind (face_alike same) fun face other equal => ?_
      refine Alike.bind (ih (done + 1)) fun rest others equals => ?_
      rw [equal, equals]
      exact Alike.pure rfl

/-- Which dice are kept does not depend on the bonus. -/
theorem keptFlags_of_shape (same : first.shape = second.shape) (faces : List Int) :
    first.keptFlags faces = second.keptFlags faces := by
  obtain ⟨count, _, keep, _⟩ := shape_iff.mp same
  rw [keptFlags, keptFlags, keep, count]

theorem dice_groupOf (same : first.shape = second.shape) (faces : List Int) (marks : List Bool) :
    (first.groupOf faces marks).dice = (second.groupOf faces marks).dice := by
  have dieOf : first.dieOf = second.dieOf := by
    funext face flags
    rw [DiceTerm.dieOf, DiceTerm.dieOf, (shape_iff.mp same).2.1]
  rw [groupOf, groupOf, dieOf, keptFlags_of_shape same]

/-- The kept dice of a group and its bonus make the subtotal. -/
theorem subtotal_groupOf (term : DiceTerm) (faces : List Int) (marks : List Bool) :
    (term.groupOf faces marks).subtotal =
      Numeral.sum (((term.groupOf faces marks).dice.filter Die.kept).map Die.result) +
        term.bonus := rfl

/-- Two terms of one shape give the same dice from the same source, and their subtotals differ by
what their bonuses differ by. -/
theorem evaluate_alike (limit : Int) (same : first.shape = second.shape)
    (one : first.isWritable = true) (other : second.isWritable = true) :
    Alike (fun g h => g.dice = h.dice ∧ g.subtotal - first.bonus = h.subtotal - second.bonus)
      (first.evaluate limit : Rolling σ DiceGroup) (second.evaluate limit) := by
  obtain ⟨count, sides, _, burst⟩ := shape_iff.mp same
  have bursts : first.bursts = second.bursts := by
    funext face
    rw [DiceTerm.bursts, DiceTerm.bursts, burst]
  rw [evaluate, evaluate, count, bursts, one, other]
  refine Alike.bind (faces_alike sides _) fun primary faces equal => ?_
  subst equal
  refine Alike.bind (extras_alike limit sides one other _ _) fun extra others equals => ?_
  subst equals
  have dice := dice_groupOf same (primary ++ extra)
    (primary.map second.bursts ++ extra.map fun _ => false)
  refine Alike.pure ⟨dice, ?_⟩
  rw [subtotal_groupOf, subtotal_groupOf, dice]
  omega

end DiceTerm

/-- The sum of all bonuses and of all flat terms. -/
def Parsed.constant (parsed : Parsed) : Int :=
  Numeral.sum (parsed.diceTerms.map DiceTerm.bonus) +
    Numeral.sum (parsed.flatTerms.map FlatTerm.value)

namespace Roll

/-- The same dice in every group, and the same total. -/
def SameDice (one other : Roll) : Prop :=
  one.groups.map DiceGroup.dice = other.groups.map DiceGroup.dice ∧ one.total = other.total

open Rolling

variable {σ : Type} [DrawSource σ] {firsts seconds : List DiceTerm}

/-- Term by term, so that the whole subtotals differ by the whole bonuses. -/
theorem groupsOf_alike (limit : Int) (same : firsts.map DiceTerm.shape = seconds.map DiceTerm.shape)
    (ones : ∀ term ∈ firsts, term.isWritable = true)
    (others : ∀ term ∈ seconds, term.isWritable = true) :
    Alike (fun gs hs => gs.map DiceGroup.dice = hs.map DiceGroup.dice ∧
        Numeral.sum (gs.map DiceGroup.subtotal) - Numeral.sum (firsts.map DiceTerm.bonus) =
          Numeral.sum (hs.map DiceGroup.subtotal) - Numeral.sum (seconds.map DiceTerm.bonus))
      (groupsOf limit firsts : Rolling σ (List DiceGroup)) (groupsOf limit seconds) := by
  induction firsts generalizing seconds with
  | nil =>
    cases seconds with
    | nil => exact Alike.pure ⟨rfl, rfl⟩
    | cons second seconds => exact nomatch same
  | cons first firsts ih =>
    cases seconds with
    | nil => exact nomatch same
    | cons second seconds =>
      obtain ⟨here, there⟩ := List.cons.inj same
      obtain ⟨one, ones⟩ := List.forall_mem_cons.mp ones
      obtain ⟨other, others⟩ := List.forall_mem_cons.mp others
      refine Alike.bind (DiceTerm.evaluate_alike limit here one other) fun g h equal => ?_
      refine Alike.bind (ih there ones others) fun gs hs equals => ?_
      refine Alike.pure ⟨?_, ?_⟩
      · rw [List.map_cons, List.map_cons, equal.1, equals.1]
      · simp only [List.map_cons, Numeral.sum]
        omega

/-- Bonuses and flat terms may be shared out differently if their sum is the same. -/
theorem ofParsed_alike (limits : Limits) {one other : Parsed}
    (same : one.diceTerms.map DiceTerm.shape = other.diceTerms.map DiceTerm.shape)
    (constant : one.constant = other.constant)
    (ones : ∀ term ∈ one.diceTerms, term.isWritable = true)
    (others : ∀ term ∈ other.diceTerms, term.isWritable = true) :
    Alike SameDice (ofParsed limits one : Rolling σ Roll) (ofParsed limits other) := by
  refine Alike.bind (Alike.adapt one.expression other.expression
    (groupsOf_alike limits.bursts same ones others)) fun gs hs equal => ?_
  refine Alike.pure ⟨equal.1, ?_⟩
  simp only [Parsed.constant] at constant
  simp only [ofGroups]
  omega

end Roll

end Tabletop
