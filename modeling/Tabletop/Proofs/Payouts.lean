import Mathlib.Data.List.ReduceOption
import Tabletop.Proofs.Endings

/-!
# Who an extra die belongs to

The extra dice of a term are counted before the first of them is drawn. They could as well be drawn
while the primary dice are gone through in turn, one for each that bursts, so the extra dice stand
in the order of the dice that they belong to. An extra die is none of the dice gone through, and
never bursts itself.
-/
namespace Tabletop

open DrawSource (after after_add answer answer_after facesOf facesOf_add)

namespace DiceTerm

variable {σ : Type} [DrawSource σ]

/-- For each of the faces in turn the extra die that it brings, none for a face that does not burst.
So many have been drawn before. -/
def payouts (term : DiceTerm) (limit : Int) (done : Nat) : List Int → Rolling σ (List (Option Int))
  | [] => pure []
  | face :: rest =>
    if term.bursts face then
      if limit < done + 1 then throw (Fault.ofBursts term limit)
      else do
        let extra ← term.face
        let others ← term.payouts limit (done + 1) rest
        return some extra :: others
    else do
      let others ← term.payouts limit done rest
      return none :: others

/-- The extra dice are those that are paid out to the faces. -/
theorem extras_eq_payouts (term : DiceTerm) (limit : Int) (done : Nat) (faces : List Int) :
    (term.extras limit done ((faces.map term.bursts).count true) : Rolling σ (List Int)) =
      List.reduceOption <$> term.payouts limit done faces := by
  induction faces generalizing done with
  | nil => rfl
  | cons face rest ih =>
    rw [payouts, List.map_cons]
    cases bursts : term.bursts face with
    | false =>
      rw [List.count_cons_of_ne (by decide), ih]
      simp [List.reduceOption_cons_of_none]
    | true =>
      rw [List.count_cons_self, extras]
      by_cases spent : limit < done + 1
      · simp only [spent, if_true]
        rfl
      · simp only [spent, if_false, if_true, ih]
        simp [List.reduceOption_cons_of_some]

/-- A face is paid if it bursts. -/
theorem ensures_payouts (term : DiceTerm) (limit : Int) (done : Nat) (faces : List Int) :
    Rolling.Ensures (fun paid => paid.map Option.isSome = faces.map term.bursts)
      (term.payouts limit done faces : Rolling σ (List (Option Int))) := by
  induction faces generalizing done with
  | nil => exact Rolling.Ensures.pure rfl
  | cons face rest ih =>
    rw [payouts]
    cases bursts : term.bursts face with
    | false =>
      apply Rolling.Ensures.bind (ih done)
      intro others paid
      apply Rolling.Ensures.pure
      simp [paid, bursts]
    | true =>
      by_cases spent : limit < done + 1
      · simp only [spent, if_true]
        exact Rolling.Ensures.throw (isLate_ofBursts term limit)
      · simp only [spent, if_true, if_false]
        apply Rolling.Ensures.bind term.ensures_face
        intro extra _
        apply Rolling.Ensures.bind (ih (done + 1))
        intro others paid
        apply Rolling.Ensures.pure
        simp [paid, bursts]

/-- Extra dice that the limit allows and that all show a face are drawn. -/
theorem run_extras {term : DiceTerm} {limit : Int} (source : σ) {due : Nat}
    (within : due ≤ limit.toNat)
    (faces : ∀ place < due, term.accepts (answer source term.sides place) = true) :
    (term.extras limit 0 due : Rolling σ (List Int)).run.run source =
      (.ok (facesOf source term.sides due), after source term.sides due) := by
  have all : min due (limit - (0 : Nat)).toNat = due := by omega
  have allowed : ¬(limit - (0 : Nat)).toNat < due := by omega
  rw [extras_eq, Rolling.run_bind, run_faces, all, firstRefused_eq_none_iff.mpr faces]
  simp only [allowed, if_false, Rolling.run_pure]

/-- Where the evaluation succeeds, the primary dice are paid out in their order. -/
theorem exists_payouts {term : DiceTerm} {limit : Int} {source left : σ} {group : DiceGroup}
    (rolled : (term.evaluate limit : Rolling σ DiceGroup).run.run source = (.ok group, left)) :
    ∃ paid, (term.payouts limit 0 (facesOf source term.sides term.count) :
        Rolling σ (List (Option Int))).run.run (after source term.sides term.count) =
          (.ok paid, left) ∧
      paid.map Option.isSome = (facesOf source term.sides term.count).map term.bursts ∧
      paid.reduceOption = facesOf (after source term.sides term.count) term.sides
        (term.burstCount (answer source term.sides)) := by
  obtain ⟨faces, within, -, -, rfl⟩ := run_evaluate_eq_ok_iff.mp rolled
  have counted := burstCount_eq fun place inside => faces place (by omega)
  have drawn := run_extras (after source term.sides term.count) within
    fun place inside => by
      rw [answer_after]
      exact faces _ (by omega)
  rw [← after_add] at drawn
  rw [counted, extras_eq_payouts, Rolling.run_map, ← counted] at drawn
  have marked := term.ensures_payouts limit 0 (facesOf source term.sides term.count)
    (after source term.sides term.count)
  -- One law tells which dice are paid and the other what is paid, both of the same run.
  generalize (term.payouts limit 0 (facesOf source term.sides term.count) :
    Rolling σ (List (Option Int))).run.run (after source term.sides term.count) = outcome
      at drawn marked ⊢
  obtain ⟨found, later⟩ := outcome
  obtain ⟨extra, rfl⟩ := Prod.mk.inj drawn
  cases found with
  | error fault => cases extra
  | ok paid => exact ⟨paid, rfl, marked, Except.ok.inj extra⟩

section Places

variable {term : DiceTerm} {source : σ}

theorem results_groupFrom (term : DiceTerm) (source : σ) :
    (term.groupFrom source).dice.map Die.result =
      facesOf source term.sides (term.count + term.burstCount (answer source term.sides)) :=
  results_groupOf_eq (by simp)

theorem exploded_groupFrom (term : DiceTerm) (source : σ) :
    (term.groupFrom source).dice.map Die.exploded =
      (facesOf source term.sides term.count).map term.bursts ++
        List.replicate (term.burstCount (answer source term.sides)) false :=
  exploded_groupOf_eq (by simp)

theorem kept_groupFrom (term : DiceTerm) (source : σ) :
    (term.groupFrom source).dice.map Die.kept =
      term.keptFlags ((term.groupFrom source).dice.map Die.result) := by
  rw [results_groupFrom]
  exact kept_groupOf_eq (by simp)

theorem bursts_iff {face : Int} :
    term.bursts face = true ↔ ∃ threshold ∈ term.burst, threshold ≤ face := by
  unfold bursts
  cases term.burst <;> simp

/-- Without a rule every die is kept. -/
theorem keptFlags_iff {faces : List Int} {place : Nat} {flag : Bool}
    (found : (term.keptFlags faces)[place]? = some flag) :
    flag = true ↔ ∀ rule ∈ term.keep, rule.Keeps term.count faces place := by
  unfold keptFlags at found
  split at found
  next given =>
    obtain ⟨_, _, kept⟩ := Option.map_eq_some_iff.mp (List.getElem?_map ▸ found)
    simp [given, ← kept]
  next rule given => simp [given, KeepRule.getElem?_keptFlags found]

/-- A primary die bursts by its face, and no other die does. -/
theorem exploded_iff {place : Nat} {die : Die}
    (found : (term.groupFrom source).dice[place]? = some die) :
    die.exploded = true ↔ place < term.count ∧ term.bursts die.result = true := by
  have mark := congrArg (·[place]?) (exploded_groupFrom term source)
  have face := congrArg (·[place]?) (results_groupFrom term source)
  simp only [List.getElem?_map, found, Option.map_some] at mark face
  by_cases primary : place < term.count
  · rw [DrawSource.getElem?_facesOf, if_pos (by omega), Option.some.injEq] at face
    rw [List.getElem?_append_left (by simpa using primary), List.getElem?_map,
      DrawSource.getElem?_facesOf, if_pos primary, ← face, Option.map_some,
      Option.some.injEq] at mark
    simp [primary, mark]
  · rw [List.getElem?_append_right (by simpa using primary)] at mark
    obtain ⟨_, mark⟩ := List.getElem?_eq_some_iff.mp mark.symm
    rw [List.getElem_replicate] at mark
    simp [primary, ← mark]

theorem countP_exploded (term : DiceTerm) (source : σ)
    (faces : ∀ place < term.count, term.accepts (answer source term.sides place) = true) :
    (term.groupFrom source).dice.countP Die.exploded =
      term.burstCount (answer source term.sides) := by
  have marks := congrArg (List.count true) (exploded_groupFrom term source)
  rw [List.count_append, ← burstCount_eq faces, List.count_replicate, List.count,
    List.countP_map] at marks
  simpa [Function.comp_def] using marks

theorem length_groupFrom (term : DiceTerm) (source : σ) :
    (term.groupFrom source).dice.length =
      term.count + term.burstCount (answer source term.sides) := by
  have long := congrArg List.length (results_groupFrom term source)
  simpa using long

end Places

/-- Of a group that is rolled every die shows what was drawn at its place. A primary die is marked
if it reaches the threshold, an extra die never. There is one extra die for each mark, and the extra
dice are those that are paid out to the marked dice in their order. -/
theorem exploded_iff_of_rolled {term : DiceTerm} {limit : Int} {source left : σ}
    {group : DiceGroup}
    (rolled : (term.evaluate limit : Rolling σ DiceGroup).run.run source = (.ok group, left)) :
    (∀ place die, group.dice[place]? = some die →
      answer source term.sides place = .integer die.result ∧
      (die.exploded = true ↔
        place < term.count ∧ ∃ threshold ∈ term.burst, threshold ≤ die.result) ∧
      (die.kept = true ↔
        ∀ rule ∈ term.keep, rule.Keeps term.count (group.dice.map Die.result) place)) ∧
    group.dice.length = term.count + group.dice.countP Die.exploded ∧
    (term.burst = none → group.dice.length = term.count) ∧
    ∃ paid, (term.payouts limit 0 ((group.dice.take term.count).map Die.result) :
        Rolling σ (List (Option Int))).run.run (after source term.sides term.count) =
          (.ok paid, left) ∧
      paid.map Option.isSome = (group.dice.take term.count).map Die.exploded ∧
      paid.reduceOption = (group.dice.drop term.count).map Die.result := by
  obtain ⟨faces, within, -, rfl, rfl⟩ := run_evaluate_eq_ok_iff.mp rolled
  have dice : (term.groupFrom source).dice.map Die.result =
      facesOf source term.sides term.count ++ facesOf (after source term.sides term.count)
        term.sides (term.burstCount (answer source term.sides)) := by
    rw [results_groupFrom, facesOf_add]
  have counted := countP_exploded term source fun place inside => faces place (by omega)
  refine ⟨fun place die found => ⟨?_, ?_, ?_⟩, ?_, fun none => ?_, ?_⟩
  · have shown := congrArg (·[place]?) (results_groupFrom term source)
    simp only [List.getElem?_map, found, Option.map_some, DrawSource.getElem?_facesOf] at shown
    split at shown
    next inside =>
      rw [Option.some.inj shown]
      exact (eq_integer_of_accepts (faces place inside)).1
    · cases shown
  · rw [exploded_iff found, bursts_iff]
  · apply keptFlags_iff
    rw [← kept_groupFrom, List.getElem?_map, found]
    rfl
  · rw [counted, length_groupFrom]
  · rw [length_groupFrom, burstCount_of_burst_none none]
    rfl
  · obtain ⟨paid, ran, marked, drawn⟩ := exists_payouts rolled
    have primary : ((term.groupFrom source).dice.take term.count).map Die.result =
        facesOf source term.sides term.count := by
      rw [List.map_take, dice]
      exact List.take_left' (DrawSource.length_facesOf ..)
    refine ⟨paid, ?_, ?_, ?_⟩
    · rw [primary]
      exact ran
    · rw [marked, List.map_take, exploded_groupFrom]
      exact (List.take_left' (by simp)).symm
    · rw [drawn, List.map_drop, dice]
      exact (List.drop_left' (DrawSource.length_facesOf ..)).symm

theorem exploded_iff_of_rolled_cappedDice :
    (cappedDice.evaluate 50 : Rolling Supply DiceGroup).run.run (cappedSupply 0) =
      (.ok cappedGroup, cappedSupply 4) ∧
    (∀ place die, cappedGroup.dice[place]? = some die →
      answer (cappedSupply 0) 6 place = .integer die.result ∧
      (die.exploded = true ↔ place < 3 ∧ ∃ threshold ∈ some 6, threshold ≤ die.result) ∧
      (die.kept = true ↔
        ∀ rule ∈ some (⟨.dropLowest, 5⟩ : KeepRule), rule.Keeps 3 [2, 6, 2, 2] place)) ∧
    4 = 3 + [false, true, false, false].count true ∧
    ∃ paid, (cappedDice.payouts 50 0 [2, 6, 2] : Rolling Supply (List (Option Int))).run.run
        (cappedSupply 3) = (.ok paid, cappedSupply 4) ∧
      paid.map Option.isSome = [false, true, false] ∧ paid.reduceOption = [2] := by
  obtain ⟨dice, size, -, paid⟩ := exploded_iff_of_rolled run_cappedDice
  exact ⟨run_cappedDice, dice, size, paid⟩

end DiceTerm

end Tabletop
