import Mathlib.Algebra.Order.BigOperators.Group.List
import Mathlib.Data.List.Perm.Subperm
import Tabletop.Proofs.Endings

/-!
# The best and the worst dice

Of all ways to single out as many dice of a group, extra dice included, a keep rule takes one with
the greatest sum or one with the least. The sum is therefore settled by the direction of the rule
and the number of dice that it keeps: rules that keep the highest and that drop the lowest agree,
and the order of the draws does not matter. Which of several equal dice are kept does depend on the
rule.
-/
namespace Tabletop

open DrawSource (answer answers facesOf)

theorem Numeral.sum_eq (numbers : List Int) : sum numbers = numbers.sum := by
  induction numbers with
  | nil => rfl
  | cons n rest ih => rw [sum, ih, List.sum_cons]

/-- The front of a list in order makes the least of all its parts that are as long. -/
theorem sum_take_le_of_sublist {list part : List Int} (sorted : list.Pairwise (· ≤ ·))
    (sub : part.Sublist list) : (list.take part.length).sum ≤ part.sum := by
  induction list generalizing part with
  | nil =>
    rw [List.sublist_nil.mp sub]
    exact le_refl _
  | cons least rest ih =>
    cases part with
    | nil => exact le_refl _
    | cons first others =>
      obtain ⟨below, sorted⟩ := List.pairwise_cons.mp sorted
      -- The part may start further back, but there is nothing less than the front of the list.
      have front := ih sorted sub.of_cons_cons
      have lower : least ≤ first := by
        rcases List.mem_cons.mp (sub.subset List.mem_cons_self) with rfl | later
        · exact le_refl _
        · exact below first later
      rw [List.length_cons, List.take_succ_cons, List.sum_cons, List.sum_cons]
      omega

/-- The faces at the places. -/
def facesAt (faces : List Int) (places : List Nat) : List Int :=
  places.map fun place => faces.getD place 0

/-- A face as a ranking counts it. -/
def worth (descending : Bool) (face : Int) : Int := if descending then -face else face

theorem worth_true (face : Int) : worth true face = -face := rfl

theorem worth_false (face : Int) : worth false face = face := rfl

section Ranked

variable {descending : Bool} {faces : List Int}

theorem facesAt_perm (faces : List Int) {places others : List Nat} (perm : places.Perm others) :
    (facesAt faces places).Perm (facesAt faces others) :=
  perm.map _

theorem facesAt_range (faces : List Int) : facesAt faces (List.range faces.length) = faces := by
  apply List.ext_getElem
  · simp [facesAt]
  · intro place inside _
    have within : place < faces.length := by simpa [facesAt] using inside
    simp [facesAt, within]

theorem facesAt_rankedPlaces_perm (descending : Bool) (faces : List Int) :
    (facesAt faces (rankedPlaces descending faces)).Perm faces := by
  have perm := facesAt_perm faces (rankedPlaces_perm descending faces)
  rwa [facesAt_range] at perm

theorem pairwise_worth (descending : Bool) (faces : List Int) :
    ((facesAt faces (rankedPlaces descending faces)).map (worth descending)).Pairwise
      (· ≤ ·) := by
  rw [facesAt, List.map_map, List.pairwise_map]
  refine (pairwise_rankedPlaces descending faces).imp fun {one other} before => ?_
  unfold Precedes at before
  cases descending <;> simp only [worth, Function.comp_apply] at before ⊢ <;> omega

theorem sum_map_worth (descending : Bool) (faces : List Int) :
    (faces.map (worth descending)).sum = worth descending faces.sum := by
  induction faces with
  | nil => cases descending <;> rfl
  | cons face rest ih =>
    rw [List.map_cons, List.sum_cons, List.sum_cons, ih]
    unfold worth
    split <;> omega

end Ranked

namespace KeepRule

variable {rule : KeepRule} {count : Nat} {faces : List Int}

/-- The faces that are singled out, to be dropped or to be kept. -/
def chosenFaces (rule : KeepRule) (count : Nat) (faces : List Int) : List Int :=
  facesAt faces (rule.chosen count faces)

/-- The faces that are kept. -/
def keptFaces (rule : KeepRule) (count : Nat) (faces : List Int) : List Int :=
  facesAt faces ((List.range faces.length).filter fun place =>
    (rule.chosen count faces).contains place != rule.drops)

/-- What is singled out is worth the least. -/
theorem worth_chosenFaces_le (rule : KeepRule) (count : Nat) {other : List Int}
    (part : other.Subperm faces)
    (equal : other.length = (rule.chosenFaces count faces).length) :
    worth rule.descending (rule.chosenFaces count faces).sum ≤ worth rule.descending other.sum := by
  obtain ⟨list, same, sub⟩ :=
    part.trans (facesAt_rankedPlaces_perm rule.descending faces).symm.subperm
  have least := sum_take_le_of_sublist (pairwise_worth rule.descending faces)
    (sub.map (worth rule.descending))
  have front : (facesAt faces (rankedPlaces rule.descending faces)).take list.length =
      rule.chosenFaces count faces := by
    rw [same.length_eq, equal, chosenFaces, chosen, facesAt, facesAt, ← List.map_take,
      List.length_map, List.length_take, ← List.take_eq_take_min]
  rw [List.length_map, ← List.map_take, front, sum_map_worth, sum_map_worth, same.sum_eq] at least
  exact least

/-- A keep rule keeps what is singled out. -/
theorem keptFaces_perm_of_keeps (count : Nat) (faces : List Int) (keeps : rule.drops = false) :
    (rule.keptFaces count faces).Perm (rule.chosenFaces count faces) := by
  unfold keptFaces
  simp only [keeps, Bool.bne_false]
  exact facesAt_perm faces (filter_chosen_perm rule count faces)

/-- A drop rule keeps the rest. -/
theorem chosenFaces_append_perm_of_drops (count : Nat) (faces : List Int)
    (drops : rule.drops = true) :
    (rule.chosenFaces count faces ++ rule.keptFaces count faces).Perm faces := by
  have split := facesAt_perm faces (List.filter_append_perm
    (fun place => (rule.chosen count faces).contains place) (List.range faces.length))
  have chosen := facesAt_perm faces (filter_chosen_perm rule count faces)
  rw [facesAt_range, facesAt, List.map_append] at split
  unfold keptFaces
  simp only [drops, Bool.bne_true]
  exact (chosen.symm.append_right _).trans split

theorem keptFaces_sublist (rule : KeepRule) (count : Nat) (faces : List Int) :
    (rule.keptFaces count faces).Sublist faces := by
  have sub := (List.filter_sublist (l := List.range faces.length) (p := fun place =>
    (rule.chosen count faces).contains place != rule.drops)).map fun place => faces.getD place 0
  have all := facesAt_range faces
  rw [facesAt] at all
  rwa [all] at sub

/-- The rule would rather keep the second sum than the first. -/
def Prefers (rule : KeepRule) (first second : Int) : Prop :=
  match rule.kind with
  | .keepHighest | .dropLowest => first ≤ second
  | .keepLowest | .dropHighest => second ≤ first

theorem prefers_iff {first second : Int} : rule.Prefers first second ↔
    if rule.drops then worth rule.descending first ≤ worth rule.descending second
    else worth rule.descending second ≤ worth rule.descending first := by
  obtain ⟨kind, amount⟩ := rule
  cases kind <;> simp [Prefers, worth, descending, drops]

/-- Of all selections of as many faces the rule keeps one that it prefers to each of them. -/
theorem prefers_keptFaces {other : List Int} (part : other.Subperm faces)
    (equal : other.length = (rule.keptFaces count faces).length) :
    rule.Prefers other.sum (rule.keptFaces count faces).sum := by
  rw [prefers_iff]
  cases drops : rule.drops with
  | false =>
    have kept := keptFaces_perm_of_keeps count faces drops
    rw [kept.sum_eq, if_neg Bool.false_ne_true]
    exact worth_chosenFaces_le rule count part (equal.trans kept.length_eq)
  | true =>
    -- What the selection leaves is as long as what is dropped, and that is worth the least.
    have split := chosenFaces_append_perm_of_drops count faces drops
    obtain ⟨list, same, sub⟩ := part
    obtain ⟨rest, whole⟩ := sub.exists_perm_append
    have long := whole.length_eq.symm.trans split.length_eq.symm
    rw [List.length_append, List.length_append, same.length_eq, equal] at long
    have least := worth_chosenFaces_le rule count
      (((List.sublist_append_right list rest).subperm).trans whole.symm.subperm) (by omega)
    have total := whole.sum_eq.symm.trans split.sum_eq.symm
    rw [List.sum_append, List.sum_append, same.sum_eq] at total
    rw [if_pos rfl]
    cases up : rule.descending with
    | false =>
      rw [up, worth_false, worth_false] at least
      rw [worth_false, worth_false]
      omega
    | true =>
      rw [up, worth_true, worth_true] at least
      rw [worth_true, worth_true]
      omega

/-- A rule that prefers two sums to each other has the same for both. -/
theorem Prefers.antisymm {first second : Int} (one : rule.Prefers first second)
    (other : rule.Prefers second first) : first = second := by
  obtain ⟨kind, amount⟩ := rule
  cases kind <;> simp only [Prefers] at one other <;> omega

theorem length_keptFaces (rule : KeepRule) (count : Nat) (faces : List Int) :
    (rule.keptFaces count faces).length =
      if rule.drops then faces.length - min (min rule.amount (count - 1)) faces.length
      else min rule.amount faces.length := by
  have chosen : (rule.chosenFaces count faces).length = (rule.chosen count faces).length :=
    List.length_map _
  rw [length_chosen] at chosen
  cases drops : rule.drops with
  | false =>
    have kept := (keptFaces_perm_of_keeps count faces drops).length_eq
    rw [drops, if_neg Bool.false_ne_true] at chosen
    rw [if_neg Bool.false_ne_true]
    omega
  | true =>
    have split := (chosenFaces_append_perm_of_drops count faces drops).length_eq
    rw [List.length_append] at split
    rw [drops, if_pos rfl] at chosen
    rw [if_pos rfl]
    omega

/-- Rules of one direction that keep equally many of the same faces keep equal sums. -/
theorem sum_keptFaces_eq {one other : KeepRule} {many : Nat} {others : List Int}
    (perm : faces.Perm others) (agree : ∀ a b, one.Prefers a b ↔ other.Prefers a b)
    (equal : (one.keptFaces count faces).length = (other.keptFaces many others).length) :
    (one.keptFaces count faces).sum = (other.keptFaces many others).sum := by
  have here : one.Prefers (other.keptFaces many others).sum (one.keptFaces count faces).sum :=
    prefers_keptFaces ((other.keptFaces_sublist many others).subperm.trans perm.symm.subperm)
      equal.symm
  have there : other.Prefers (one.keptFaces count faces).sum (other.keptFaces many others).sum :=
    prefers_keptFaces ((one.keptFaces_sublist count faces).subperm.trans perm.subperm) equal
  exact ((agree _ _).mpr there).antisymm here

end KeepRule

namespace DiceTerm

/-- The faces that are kept, all of them where there is no rule. -/
def keptFaces (term : DiceTerm) (faces : List Int) : List Int :=
  match term.keep with
  | none => faces
  | some rule => rule.keptFaces term.count faces

section Groups

variable {term : DiceTerm} {faces : List Int} {marks : List Bool}

theorem filter_zip_keptFlags (term : DiceTerm) (faces : List Int) :
    ((faces.zip (term.keptFlags faces)).filter Prod.snd).map Prod.fst = term.keptFaces faces := by
  unfold keptFlags keptFaces
  cases term.keep with
  | none =>
    have same := List.zip_map' (f := id) (g := fun _ => true) (l := faces)
    rw [List.map_id] at same
    simp only [same, List.filter_map, List.map_map]
    simp [Function.comp_def]
  | some rule =>
    have same := List.zip_map' (f := fun place => faces.getD place 0)
      (g := fun place => (rule.chosen term.count faces).contains place != rule.drops)
      (l := List.range faces.length)
    have all := facesAt_range faces
    rw [facesAt] at all
    rw [all] at same
    simp only [KeepRule.keptFlags_eq, same, List.filter_map, List.map_map]
    rfl

theorem results_keptDice (marked : marks.length = faces.length) :
    (term.groupOf faces marks).keptDice.map Die.result = term.keptFaces faces := by
  have pairs := List.zip_map' (f := Die.result) (g := Die.kept)
    (l := (term.groupOf faces marks).dice)
  rw [results_groupOf_eq marked, kept_groupOf_eq marked] at pairs
  rw [← filter_zip_keptFlags, pairs, List.filter_map, List.map_map]
  rfl

theorem subtotal_groupOf_eq (marked : marks.length = faces.length) :
    (term.groupOf faces marks).subtotal = (term.keptFaces faces).sum + term.bonus := by
  have kept : (term.groupOf faces marks).subtotal =
      Numeral.sum ((term.groupOf faces marks).keptDice.map Die.result) + term.bonus := rfl
  rw [kept, results_keptDice marked, Numeral.sum_eq]

end Groups

section Yields

variable {σ : Type} [DrawSource σ] {term : DiceTerm} {limit : Int}

/-- The evaluation succeeds with the subtotal. -/
def Yields (term : DiceTerm) (limit : Int) (source : σ) (subtotal : Int) : Prop :=
  ∃ group left, (term.evaluate limit : Rolling σ DiceGroup).run.run source = (.ok group, left) ∧
    group.subtotal = subtotal

/-- A term without bursts yields what it keeps of its primary faces. -/
theorem yields_iff {source : σ} {subtotal : Int} (plain : term.burst = none) :
    term.Yields limit source subtotal ↔
      (∀ document ∈ answers source term.sides term.count, term.accepts document = true) ∧
      term.isWritable = true ∧
      subtotal = (term.keptFaces (facesOf source term.sides term.count)).sum + term.bonus := by
  have bare : term.burstCount (answer source term.sides) = 0 := burstCount_of_burst_none plain
  have group : (term.groupFrom source).subtotal =
      (term.keptFaces (facesOf source term.sides term.count)).sum + term.bonus := by
    simp only [groupFrom, bare, Nat.add_zero, List.replicate_zero, List.append_nil]
    exact subtotal_groupOf_eq (by simp)
  simp only [Yields, run_evaluate_eq_ok_iff, bare, Nat.add_zero, Nat.zero_le, true_and, answers,
    List.forall_mem_map, List.mem_range]
  constructor
  · rintro ⟨_, _, ⟨faces, writable, rfl, rfl⟩, rfl⟩
    exact ⟨faces, writable, group⟩
  · rintro ⟨faces, writable, rfl⟩
    exact ⟨_, _, ⟨faces, writable, rfl, rfl⟩, group⟩

/-- The term with another rule. -/
def keeping (term : DiceTerm) (rule : KeepRule) : DiceTerm := { term with keep := some rule }

/-- An amount of no more than the dice of the term is no longer to write than their number. -/
theorem isWritable_keeping_iff {rule : KeepRule} (small : rule.amount ≤ term.count) :
    (term.keeping rule).isWritable = true ↔
      Numeral.fits term.count = true ∧ Numeral.fits term.sides = true ∧
        Numeral.fits term.bonus = true ∧
        ∀ threshold ∈ term.burst, Numeral.fits threshold = true := by
  rw [isWritable_iff]
  constructor
  · rintro ⟨count, sides, bonus, burst, -⟩
    exact ⟨count, sides, bonus, burst⟩
  · rintro ⟨count, sides, bonus, burst⟩
    refine ⟨count, sides, bonus, burst, fun given same => ?_⟩
    rw [← Option.some.inj same]
    exact Numeral.fits_natCast.mpr (Nat.lt_of_le_of_lt small (Numeral.fits_natCast.mp count))

/-- To keep so many dice is to drop the others, with rules of one direction. -/
theorem yields_keep_iff_yields_drop {keep drop : KeepRule} {source : σ} {subtotal : Int}
    (plain : term.burst = none) (agree : ∀ a b, keep.Prefers a b ↔ drop.Prefers a b)
    (keeps : keep.drops = false) (drops : drop.drops = true) (filled : 1 ≤ keep.amount)
    (whole : keep.amount + drop.amount = term.count) :
    (term.keeping keep).Yields limit source subtotal ↔
      (term.keeping drop).Yields limit source subtotal := by
  have equal : (keep.keptFaces term.count (facesOf source term.sides term.count)).length =
      (drop.keptFaces term.count (facesOf source term.sides term.count)).length := by
    rw [KeepRule.length_keptFaces, KeepRule.length_keptFaces, DrawSource.length_facesOf, keeps,
      drops, if_neg Bool.false_ne_true, if_pos rfl]
    omega
  have same := KeepRule.sum_keptFaces_eq (.refl (facesOf source term.sides term.count)) agree equal
  rw [yields_iff (show (term.keeping keep).burst = none from plain),
    yields_iff (show (term.keeping drop).burst = none from plain),
    isWritable_keeping_iff (Nat.le.intro whole),
    isWritable_keeping_iff (Nat.le.intro ((Nat.add_comm ..).trans whole))]
  refine and_congr_right fun _ => and_congr_right fun _ => ?_
  change subtotal = (keep.keptFaces term.count (facesOf source term.sides term.count)).sum +
    term.bonus ↔ subtotal = (drop.keptFaces term.count (facesOf source term.sides
      term.count)).sum + term.bonus
  rw [same]

/-- The kept faces of two orders of the same faces make the same sum. -/
theorem sum_keptFaces_perm {faces others : List Int} (perm : faces.Perm others) :
    (term.keptFaces faces).sum = (term.keptFaces others).sum := by
  unfold keptFaces
  cases term.keep with
  | none => exact perm.sum_eq
  | some rule =>
    apply KeepRule.sum_keptFaces_eq perm fun a b => Iff.rfl
    rw [KeepRule.length_keptFaces, KeepRule.length_keptFaces, perm.length_eq]

/-- The order of the values does not matter. -/
theorem yields_perm_iff {τ : Type} [DrawSource τ] {source : σ} {other : τ} {subtotal : Int}
    (plain : term.burst = none)
    (perm : (answers source term.sides term.count).Perm (answers other term.sides term.count)) :
    term.Yields limit source subtotal ↔ term.Yields limit other subtotal := by
  have faces : (facesOf source term.sides term.count).Perm (facesOf other term.sides term.count) :=
    perm.map _
  have same : (∀ document ∈ answers source term.sides term.count,
      term.accepts document = true) ↔ ∀ document ∈ answers other term.sides term.count,
        term.accepts document = true :=
    forall_congr' fun document => by rw [perm.mem_iff]
  rw [yields_iff plain, yields_iff plain, same, sum_keptFaces_perm faces]

/-- Of the dice that are rolled the rule keeps a selection that it prefers to any of that size. -/
theorem prefers_keptDice {source left : σ} {group : DiceGroup} {rule : KeepRule}
    (given : term.keep = some rule)
    (rolled : (term.evaluate limit : Rolling σ DiceGroup).run.run source = (.ok group, left))
    {chosen : List Die} (part : chosen.Subperm group.dice)
    (equal : chosen.length = group.keptDice.length) :
    rule.Prefers (Numeral.sum (chosen.map Die.result))
      (Numeral.sum (group.keptDice.map Die.result)) := by
  obtain ⟨faces, marks, rfl, marked, -⟩ := groupOf_of_evaluate rolled
  obtain ⟨list, same, sub⟩ := part
  have shown := sub.map Die.result
  rw [results_groupOf_eq marked] at shown
  have kept : (term.groupOf faces marks).keptDice.map Die.result = term.keptFaces faces :=
    results_keptDice marked
  rw [keptFaces, given] at kept
  dsimp only at kept
  rw [Numeral.sum_eq, Numeral.sum_eq, kept]
  apply KeepRule.prefers_keptFaces
  · exact ⟨list.map Die.result, same.map _, shown⟩
  · rw [← kept, List.length_map, List.length_map, equal]

end Yields

/-- Two plain dice. -/
def pairOfDice : DiceTerm := ⟨2, 6, none, none, 0, []⟩

theorem isWritable_pairOfDice {rule : KeepRule} (small : rule.amount ≤ 2) :
    (pairOfDice.keeping rule).isWritable = true :=
  (isWritable_keeping_iff small).mpr ⟨Numeral.fits_small (n := 2) (by decide),
    Numeral.fits_small (n := 6) (by decide), Numeral.fits_zero, fun _ given => nomatch given⟩

theorem run_pairOfDice {rule : KeepRule} (small : rule.amount ≤ 2) :
    ((pairOfDice.keeping rule).evaluate 50 : Rolling Supply DiceGroup).run.run .highest =
      (.ok ((pairOfDice.keeping rule).groupFrom Supply.highest), .highest) := by
  have faces : ∀ place < 2, pairOfDice.accepts (answer Supply.highest 6 place) = true := by decide
  exact run_evaluate_eq_ok_iff.mpr
    ⟨faces, Nat.zero_le _, isWritable_pairOfDice small, rfl, rfl⟩

/-- Of two equal dice the first is kept as the highest, and it is dropped as the lowest. -/
theorem exists_kept_ne : ∃ (term : DiceTerm) (n : Nat) (source left : Supply)
    (high low : DiceGroup), term.burst = none ∧ 1 ≤ n ∧ n < term.count ∧
    ((term.keeping ⟨.keepHighest, n⟩).evaluate 50 : Rolling Supply DiceGroup).run.run source =
      (.ok high, left) ∧
    ((term.keeping ⟨.dropLowest, term.count - n⟩).evaluate 50 :
      Rolling Supply DiceGroup).run.run source = (.ok low, left) ∧
    high.dice.map Die.kept ≠ low.dice.map Die.kept := by
  refine ⟨pairOfDice, 1, .highest, .highest, _, _, rfl, by decide, by decide,
    run_pairOfDice (by decide), run_pairOfDice (by decide), ?_⟩
  have high : ((pairOfDice.keeping ⟨.keepHighest, 1⟩).groupFrom Supply.highest).dice.map
      Die.kept = [true, false] := by cbv
  have low : ((pairOfDice.keeping ⟨.dropLowest, pairOfDice.count - 1⟩).groupFrom
      Supply.highest).dice.map Die.kept = [false, true] := by cbv
  rw [high, low]
  decide

/-- Of all selections of as many dice the kept ones make the most, or the least. Keeping the highest
is dropping the lowest and the other way round as far as the subtotal goes, but not as to which of
equal dice are kept, and without bursts the order of the draws does not matter. -/
theorem keeps_extreme {σ τ : Type} [DrawSource σ] [DrawSource τ] :
    (∀ (term : DiceTerm) (rule : KeepRule) (limit : Int) (source left : σ) (group : DiceGroup),
      term.keep = some rule →
      (term.evaluate limit : Rolling σ DiceGroup).run.run source = (.ok group, left) →
      group.keptDice.Subperm group.dice ∧
      ∀ chosen : List Die, chosen.Subperm group.dice → chosen.length = group.keptDice.length →
        match rule.kind with
        | .keepHighest | .dropLowest => Numeral.sum (chosen.map Die.result) ≤
            Numeral.sum (group.keptDice.map Die.result)
        | .keepLowest | .dropHighest => Numeral.sum (group.keptDice.map Die.result) ≤
            Numeral.sum (chosen.map Die.result)) ∧
    (∀ (term : DiceTerm) (limit : Int) (source : σ) (n : Nat) (subtotal : Int),
      term.burst = none → 1 ≤ n → n < term.count →
      ((term.keeping ⟨.keepHighest, n⟩).Yields limit source subtotal ↔
        (term.keeping ⟨.dropLowest, term.count - n⟩).Yields limit source subtotal) ∧
      ((term.keeping ⟨.keepLowest, n⟩).Yields limit source subtotal ↔
        (term.keeping ⟨.dropHighest, term.count - n⟩).Yields limit source subtotal)) ∧
    (∃ (term : DiceTerm) (n : Nat) (source left : Supply) (high low : DiceGroup),
      term.burst = none ∧ 1 ≤ n ∧ n < term.count ∧
      ((term.keeping ⟨.keepHighest, n⟩).evaluate 50 : Rolling Supply DiceGroup).run.run source =
        (.ok high, left) ∧
      ((term.keeping ⟨.dropLowest, term.count - n⟩).evaluate 50 :
        Rolling Supply DiceGroup).run.run source = (.ok low, left) ∧
      high.dice.map Die.kept ≠ low.dice.map Die.kept) ∧
    ∀ (term : DiceTerm) (limit : Int) (source : σ) (other : τ) (subtotal : Int),
      term.burst = none →
      (answers source term.sides term.count).Perm (answers other term.sides term.count) →
      (term.Yields limit source subtotal ↔ term.Yields limit other subtotal) := by
  refine ⟨?_, ?_, exists_kept_ne, ?_⟩
  · intro term rule limit source left group given rolled
    refine ⟨List.filter_sublist.subperm, fun chosen part equal => ?_⟩
    exact prefers_keptDice given rolled part equal
  · intro term limit source n subtotal plain positive below
    have whole : n + (term.count - n) = term.count := Nat.add_sub_cancel' (Nat.le_of_lt below)
    exact ⟨yields_keep_iff_yields_drop plain (fun a b => Iff.rfl) rfl rfl positive whole,
      yields_keep_iff_yields_drop plain (fun a b => Iff.rfl) rfl rfl positive whole⟩
  · intro term limit source other subtotal plain perm
    exact yields_perm_iff plain perm

/-- Two of four dice are kept, and no two make more than eight. -/
theorem keeps_extreme_cappedDice :
    (∀ chosen : List Die, chosen.Subperm cappedGroup.dice → chosen.length = 2 →
      Numeral.sum (chosen.map Die.result) ≤ 8) ∧
    (∀ subtotal, (pairOfDice.keeping ⟨.keepHighest, 1⟩).Yields 50 Supply.highest subtotal ↔
      (pairOfDice.keeping ⟨.dropLowest, 1⟩).Yields 50 Supply.highest subtotal) ∧
    ∀ subtotal, pairOfDice.Yields 50 (Supply.cycle [.integer 2, .integer 5] 0) subtotal ↔
      pairOfDice.Yields 50 (Supply.cycle [.integer 5, .integer 2] 0) subtotal := by
  obtain ⟨extreme, dual, -, order⟩ := keeps_extreme (σ := Supply) (τ := Supply)
  refine ⟨fun chosen part two => ?_, fun subtotal => ?_, fun subtotal => ?_⟩
  · exact (extreme cappedDice ⟨.dropLowest, 5⟩ 50 _ _ cappedGroup rfl run_cappedDice).2
      chosen part two
  · exact (dual pairOfDice 50 .highest 1 subtotal rfl (by decide) (by decide)).1
  · exact order pairOfDice 50 _ _ subtotal rfl (List.Perm.swap _ _ _)

end DiceTerm

end Tabletop
