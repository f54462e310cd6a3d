import Tabletop.Proofs.Ranking
import Tabletop.Proofs.Rolled
import Tabletop.Proofs.WellFormed

/-!
# Every draw is a die

A roll that succeeds has asked its source for the dice of its groups, one question for each die in
the order of the dice, and for nothing else. The faces of the dice are the answers, and the total
is made of the kept ones and of the constants of the expression.
-/
namespace Tabletop

/-- A question to a source, and the face that it gave. -/
structure Draw where
  sides : Nat
  face : Int
  deriving DecidableEq, Repr

/-- The source answers the questions in turn with the faces, and `after` is what becomes of it. -/
def Drawn {σ : Type} [DrawSource σ] (source : σ) : List Draw → σ → Prop
  | [], after => after = source
  | draw :: rest, after => ∃ next, DrawSource.draw source draw.sides = (.integer draw.face, next) ∧
      Drawn next rest after

namespace Drawn

variable {σ : Type} [DrawSource σ] {source between after : σ} {first second : List Draw}

theorem append (here : Drawn source first between) (there : Drawn between second after) :
    Drawn source (first ++ second) after := by
  induction first generalizing source with
  | nil =>
    cases here
    exact there
  | cons draw rest ih =>
    obtain ⟨next, answered, here⟩ := here
    exact ⟨next, answered, ih here⟩

end Drawn

namespace Rolling

variable {σ α β : Type}

/-- Only a rolling that succeeds goes on. -/
theorem run_bind_eq_ok {rolling : Rolling σ α} {next : α → Rolling σ β} {source after : σ} {b : β}
    (h : (rolling >>= next).run.run source = (.ok b, after)) :
    ∃ a between, rolling.run.run source = (.ok a, between) ∧
      (next a).run.run between = (.ok b, after) := by
  rw [run_bind] at h
  generalize rolling.run.run source = outcome at h ⊢
  obtain ⟨found, between⟩ := outcome
  cases found with
  | error fault => cases h
  | ok a => exact ⟨a, between, rfl, h⟩

variable [DrawSource σ]

/-- Whatever it gives, it gives by draws that satisfy `account`. -/
def Draws (account : List Draw → α → Prop) (rolling : Rolling σ α) : Prop :=
  ∀ source a after, rolling.run.run source = (.ok a, after) →
    ∃ draws, Drawn source draws after ∧ account draws a

namespace Draws

variable {account : List Draw → α → Prop} {onward : List Draw → β → Prop} {rolling : Rolling σ α}

theorem pure {a : α} (holds : account [] a) : Draws account (Pure.pure a : Rolling σ α) := by
  intro source b after h
  cases h
  exact ⟨[], rfl, holds⟩

theorem throw (fault : Fault) : Draws account (throw fault : Rolling σ α) := by
  intro source a after h
  cases h

theorem bind {next : α → Rolling σ β} (first : Draws account rolling)
    (each : ∀ draws a, account draws a → Draws (fun more => onward (draws ++ more)) (next a)) :
    Draws onward (rolling >>= next) := by
  intro source b after h
  obtain ⟨a, between, ran, h⟩ := run_bind_eq_ok h
  obtain ⟨draws, here, holds⟩ := first source a between ran
  obtain ⟨more, there, done⟩ := each draws a holds between b after h
  exact ⟨draws ++ more, here.append there, done⟩

theorem adapt (change : Fault → Fault) (draws : Draws account rolling) :
    Draws account (rolling.adapt change) := by
  intro source a after h
  rw [run_adapt] at h
  refine draws source a after ?_
  generalize rolling.run.run source = outcome at h ⊢
  obtain ⟨found, left⟩ := outcome
  cases found with
  | error fault => cases h
  | ok b => exact h

end Draws

end Rolling

open Rolling

namespace DiceGroup

/-- One question for each die of the group, answered by its face. -/
def draws (group : DiceGroup) : List Draw :=
  group.dice.map fun die => ⟨group.sides.toNat, die.result⟩

end DiceGroup

namespace DiceTerm

/-- The dice of the term, each asked for in turn. -/
def drawsOf (term : DiceTerm) (faces : List Int) : List Draw :=
  faces.map fun face => ⟨term.sides, face⟩

/-- A group is what becomes of a term: its primary dice, then one die for each of them that bursts,
and not all of them dropped. -/
structure Rolled (term : DiceTerm) (group : DiceGroup) : Prop where
  origin : group.term = some term
  count : group.count = term.count
  sides : group.sides = term.sides
  primary : term.count ≤ group.dice.length
  extras : (group.dice.drop term.count).length =
    (group.dice.take term.count).countP fun die => term.bursts die.result
  faces : ∀ die ∈ group.dice, die.sides = term.sides ∧ 1 ≤ die.result ∧ die.result ≤ term.sides
  kept : ∃ die ∈ group.dice, die.kept = true
  subtotal : group.subtotal = Numeral.sum (group.keptDice.map Die.result) + term.bonus

section Groups

variable {term : DiceTerm} {faces : List Int} {marks : List Bool}

theorem results_groupOf_eq (marked : marks.length = faces.length) :
    (term.groupOf faces marks).dice.map Die.result = faces := by
  rw [groupOf, ← List.map_uncurry_zip_eq_zipWith, List.map_map]
  exact List.map_fst_zip (by simp [marked])

theorem kept_groupOf_eq (marked : marks.length = faces.length) :
    (term.groupOf faces marks).dice.map Die.kept = term.keptFlags faces := by
  rw [groupOf, ← List.map_uncurry_zip_eq_zipWith, List.map_map]
  have flags : (Die.kept ∘ Function.uncurry term.dieOf) = Prod.fst ∘ Prod.snd := rfl
  rw [flags, ← List.map_map, List.map_snd_zip (by simp [marked]),
    List.map_fst_zip (by simp [marked])]

theorem exploded_groupOf_eq (marked : marks.length = faces.length) :
    (term.groupOf faces marks).dice.map Die.exploded = marks := by
  rw [groupOf, ← List.map_uncurry_zip_eq_zipWith, List.map_map]
  have flags : (Die.exploded ∘ Function.uncurry term.dieOf) = Prod.snd ∘ Prod.snd := rfl
  rw [flags, ← List.map_map, List.map_snd_zip (by simp [marked]),
    List.map_snd_zip (by simp [marked])]

theorem sides_groupOf (term : DiceTerm) (faces : List Int) (marks : List Bool) :
    ∀ die ∈ (term.groupOf faces marks).dice, die.sides = term.sides := by
  intro die member
  rw [groupOf, ← List.map_uncurry_zip_eq_zipWith] at member
  obtain ⟨_, _, rfl⟩ := List.mem_map.mp member
  rfl

theorem draws_groupOf (marked : marks.length = faces.length) :
    (term.groupOf faces marks).draws = term.drawsOf faces := by
  have results : (term.groupOf faces marks).dice.map Die.result = faces :=
    results_groupOf_eq marked
  rw [DiceGroup.draws, drawsOf]
  conv_rhs => rw [← results]
  rw [List.map_map]
  rfl

/-- Primary faces and a face for each that bursts make a group of the term. -/
theorem rolled_groupOf {primary extra : List Int} (counted : primary.length = term.count)
    (paid : extra.length = (primary.map term.bursts).count true)
    (within : ∀ face ∈ primary ++ extra, term.IsFace face)
    (positive : ∀ rule ∈ term.keep, 1 ≤ rule.amount) (filled : 1 ≤ term.count) :
    term.Rolled (term.groupOf (primary ++ extra)
      (primary.map term.bursts ++ extra.map fun _ => false)) := by
  set marks := primary.map term.bursts ++ extra.map fun _ => false
  have marked : marks.length = (primary ++ extra).length := by simp [marks]
  set group := term.groupOf (primary ++ extra) marks
  have results : group.dice.map Die.result = primary ++ extra := results_groupOf_eq marked
  have long : group.dice.length = term.count + extra.length := by
    rw [← List.length_map Die.result, results, List.length_append, counted]
  have front : (group.dice.take term.count).map Die.result = primary := by
    rw [List.map_take, results, ← counted, List.take_left]
  exact
    { origin := rfl
      count := rfl
      sides := rfl
      primary := by omega
      extras := by
        have bursts : (group.dice.take term.count).countP (fun die => term.bursts die.result) =
            ((group.dice.take term.count).map Die.result).countP term.bursts := by
          rw [List.countP_map]
          rfl
        rw [List.length_drop, long, bursts, front, Nat.add_sub_cancel_left, paid, List.count,
          List.countP_map]
        congr 1
        funext face
        simp
      faces := by
        intro die member
        have face : die.result ∈ primary ++ extra := results ▸ List.mem_map_of_mem member
        exact ⟨sides_groupOf _ _ _ die member, within _ face⟩
      kept := by
        have enough : term.count ≤ (primary ++ extra).length := by
          rw [List.length_append]
          omega
        have flags := true_mem_keptFlags positive filled enough
        rw [← kept_groupOf_eq marked] at flags
        exact List.mem_map.mp flags
      subtotal := rfl }

end Groups

variable {σ : Type} [DrawSource σ]

theorem draws_face (term : DiceTerm) :
    Draws (fun draws face => draws = [⟨term.sides, face⟩] ∧ term.IsFace face)
      (term.face : Rolling σ Int) := by
  intro source face after h
  obtain ⟨value, between, asked, h⟩ := run_bind_eq_ok h
  have answer : (DrawSource.draw source term.sides).1 = value :=
    Except.ok.inj (congrArg Prod.fst asked)
  have left : (DrawSource.draw source term.sides).2 = between := congrArg Prod.snd asked
  split at h
  next n =>
    split at h
    next within =>
      cases h
      exact ⟨[⟨term.sides, _⟩], ⟨_, Prod.ext answer left, rfl⟩, rfl, within⟩
    · cases h
  · cases h

/-- So many faces of the term, each of them asked for. -/
def Asked (term : DiceTerm) (n : Nat) (draws : List Draw) (faces : List Int) : Prop :=
  draws = term.drawsOf faces ∧ faces.length = n ∧ ∀ face ∈ faces, term.IsFace face

theorem draws_cons {term : DiceTerm} {n : Nat} {rest : Rolling σ (List Int)}
    (others : Draws (term.Asked n) rest) :
    Draws (term.Asked (n + 1)) (do return (← term.face) :: (← rest)) := by
  refine Draws.bind term.draws_face fun draws face here => ?_
  refine Draws.bind others fun more faces there => ?_
  obtain ⟨rfl, within⟩ := here
  obtain ⟨rfl, rfl, inside⟩ := there
  exact Draws.pure ⟨by simp [drawsOf], rfl, List.forall_mem_cons.mpr ⟨within, inside⟩⟩

theorem draws_nil (term : DiceTerm) :
    Draws (term.Asked 0) (pure [] : Rolling σ (List Int)) :=
  Draws.pure ⟨rfl, rfl, List.forall_mem_nil _⟩

theorem draws_faces (term : DiceTerm) (n : Nat) :
    Draws (term.Asked n) (term.faces n : Rolling σ (List Int)) := by
  induction n with
  | zero => exact term.draws_nil
  | succ n ih => exact draws_cons ih

theorem draws_extras (term : DiceTerm) (limit : Int) (done due : Nat) :
    Draws (term.Asked due) (term.extras limit done due : Rolling σ (List Int)) := by
  induction due generalizing done with
  | zero => exact term.draws_nil
  | succ due ih =>
    rw [extras]
    split
    · exact Draws.throw _
    · exact draws_cons (ih (done + 1))

theorem draws_evaluate {term : DiceTerm} (limit : Int)
    (positive : ∀ rule ∈ term.keep, 1 ≤ rule.amount) (filled : 1 ≤ term.count) :
    Draws (fun draws group => draws = group.draws ∧ term.Rolled group)
      (term.evaluate limit : Rolling σ DiceGroup) := by
  refine Draws.bind (term.draws_faces _) fun draws primary here => ?_
  refine Draws.bind (term.draws_extras limit 0 _) fun more extra there => ?_
  obtain ⟨rfl, counted, first⟩ := here
  obtain ⟨rfl, paid, second⟩ := there
  split
  · refine Draws.pure ⟨?_, rolled_groupOf counted paid (List.forall_mem_append.mpr ⟨first, second⟩)
      positive filled⟩
    rw [draws_groupOf (by simp)]
    simp [drawsOf]
  · exact Draws.throw _

end DiceTerm

namespace Roll

variable {σ : Type} [DrawSource σ]

theorem draws_groupsOf (limit : Int) {terms : List DiceTerm}
    (positive : ∀ term ∈ terms, ∀ rule ∈ term.keep, 1 ≤ rule.amount)
    (filled : ∀ term ∈ terms, 1 ≤ term.count) :
    Draws (fun draws groups => draws = groups.flatMap DiceGroup.draws ∧
        List.Forall₂ DiceTerm.Rolled terms groups)
      (groupsOf limit terms : Rolling σ (List DiceGroup)) := by
  induction terms with
  | nil => exact Draws.pure ⟨rfl, .nil⟩
  | cons term rest ih =>
    obtain ⟨one, ones⟩ := List.forall_mem_cons.mp positive
    obtain ⟨some, all⟩ := List.forall_mem_cons.mp filled
    refine Draws.bind (DiceTerm.draws_evaluate limit one some) fun draws group here => ?_
    refine Draws.bind (ih ones all) fun more others there => ?_
    obtain ⟨rfl, rolled⟩ := here
    obtain ⟨rfl, rolls⟩ := there
    exact Draws.pure ⟨by simp, .cons rolled rolls⟩

/-- The subtotals hold the kept faces and the bonuses. -/
theorem sum_subtotals {terms : List DiceTerm} {groups : List DiceGroup}
    (rolled : List.Forall₂ DiceTerm.Rolled terms groups) :
    Numeral.sum (groups.map DiceGroup.subtotal) =
      Numeral.sum (groups.flatMap fun group => group.keptDice.map Die.result) +
        Numeral.sum (terms.map DiceTerm.bonus) := by
  induction rolled with
  | nil => rfl
  | cons here _ ih =>
    simp only [List.map_cons, List.flatMap_cons, Numeral.sum, Numeral.sum_append, here.subtotal, ih]
    omega

/-- A roll that succeeds has one group for each dice term, in their order. What it drew are the
dice of its groups in their order, each asked for with the sides of its group. -/
theorem drawn_of_rolled {limits : Limits} {raw : Text} {source after : σ} {roll : Roll}
    (h : (ofExpression limits raw : Rolling σ Roll).run.run source = (.ok roll, after)) :
    ∃ parsed, Notation.parse limits raw = .ok parsed ∧
      List.Forall₂ DiceTerm.Rolled parsed.diceTerms roll.groups ∧
      Drawn source (roll.groups.flatMap DiceGroup.draws) after ∧
      roll.flatSum = Numeral.sum (parsed.flatTerms.map FlatTerm.value) ∧
      roll.total = Numeral.sum (roll.groups.flatMap fun group => group.keptDice.map Die.result) +
        Numeral.sum (parsed.diceTerms.map DiceTerm.bonus) +
        Numeral.sum (parsed.flatTerms.map FlatTerm.value) ∧
      roll.total = Numeral.sum (roll.groups.map DiceGroup.subtotal) + roll.flatSum := by
  rw [ofExpression] at h
  split at h
  · cases h
  next parsed read =>
    split at h
    · cases h
    · have wellFormed := Notation.wellFormed_diceTerms read
      obtain ⟨groups, between, rolled, done⟩ := run_bind_eq_ok h
      obtain ⟨draws, drawn, rfl, rolls⟩ := (draws_groupsOf limits.bursts
        (fun term member => (wellFormed term member).amount_pos)
        (fun term member => (wellFormed term member).count_pos)).adapt _ _ _ _ rolled
      cases done
      have subtotals := sum_subtotals rolls
      refine ⟨parsed, read, rolls, drawn, rfl, ?_, rfl⟩
      simp only [ofGroups, subtotals]

/-! ### A roll with an extra die, two groups and a flat term -/

def mixedText : Text := "2d6x>5dl1 + 2 + D4 - 4".toList

def mixedDice : DiceTerm := ⟨2, 6, some ⟨.dropLowest, 1⟩, some 5, 2, "2d6x>5dl1+2".toList⟩

def loneDie : DiceTerm := ⟨1, 4, none, none, 0, "d4".toList⟩

def mixedParsed : Parsed where
  expression := "2d6x>5dl1+2+d4-4".toList
  terms := [.dice mixedDice, .dice loneDie, .flat ⟨-4, "-4".toList⟩]
  ignored := []

def mixedGroups : List DiceGroup :=
  [⟨some mixedDice, 6, 2, [⟨6, 6, true, true⟩, ⟨2, 6, false, false⟩, ⟨3, 6, true, false⟩], 11⟩,
    ⟨some loneDie, 4, 1, [⟨4, 4, true, false⟩], 4⟩]

def mixedSupply (next : Nat) : Supply :=
  .cycle [.integer 6, .integer 2, .integer 3, .integer 4] next

theorem parse_mixedText : Notation.parse ⟨100, 1000, 50⟩ mixedText = .ok mixedParsed := by cbv

theorem run_mixedText :
    (ofExpression ⟨100, 1000, 50⟩ mixedText : Rolling (Tally Supply) Roll).run.run
        (.start (mixedSupply 0)) =
      (.ok (ofGroups mixedParsed mixedGroups), ⟨mixedSupply 4, [4, 6, 6, 6]⟩) := by
  have terms : mixedParsed.diceTerms = [mixedDice, loneDie] := rfl
  have writable := Notation.writable_of_parse parse_mixedText
  rw [terms] at writable
  have first : mixedDice.isWritable = true := writable _ List.mem_cons_self
  have second : loneDie.isWritable = true := writable _ (List.mem_cons_of_mem _ List.mem_cons_self)
  have rolled : (groupsOf 50 [mixedDice, loneDie] : Rolling (Tally Supply) _).run.run
      (.start (mixedSupply 0)) = (.ok mixedGroups, ⟨mixedSupply 4, [4, 6, 6, 6]⟩) := by
    rw [groupsOf, groupsOf, DiceTerm.evaluate, DiceTerm.evaluate, first, second]
    cbv
  rw [ofExpression_of_parse parse_mixedText (List.cons_ne_nil _ _), ofParsed, run_bind, run_adapt,
    terms, rolled]
  rfl

theorem drawn_of_rolled_mixedText :
    (∃ parsed, Notation.parse ⟨100, 1000, 50⟩ mixedText = .ok parsed ∧
      List.Forall₂ DiceTerm.Rolled parsed.diceTerms mixedGroups ∧
      Drawn (Tally.start (mixedSupply 0)) [⟨6, 6⟩, ⟨6, 2⟩, ⟨6, 3⟩, ⟨4, 4⟩]
        ⟨mixedSupply 4, [4, 6, 6, 6]⟩ ∧
      -4 = Numeral.sum (parsed.flatTerms.map FlatTerm.value) ∧
      11 = Numeral.sum [6, 3, 4] + Numeral.sum (parsed.diceTerms.map DiceTerm.bonus) +
        Numeral.sum (parsed.flatTerms.map FlatTerm.value) ∧
      (11 : Int) = Numeral.sum [11, 4] + -4) :=
  drawn_of_rolled run_mixedText

end Roll

end Tabletop
