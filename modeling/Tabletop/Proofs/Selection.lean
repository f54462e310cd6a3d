import Tabletop.Proofs.Drawing

/-!
# Which dice are kept

A keep rule is settled by ranks. The rank of a face is the number of faces before it, counting up
or down and of equal faces by place, and it runs over the extra dice as well. A drop rule drops the
dice of the first ranks, one short of the primary dice at most, and a keep rule keeps them.
-/
namespace Tabletop

/-- Of the faces at two places the one ranks before the other. -/
def Precedes (descending : Bool) (faces : List Int) (one other : Nat) : Prop :=
  let key place := if descending then -faces.getD place 0 else faces.getD place 0
  key one < key other ∨ key one = key other ∧ one < other

instance (descending : Bool) (faces : List Int) (one other : Nat) :
    Decidable (Precedes descending faces one other) :=
  inferInstanceAs (Decidable (_ ∨ _))

/-- The number of faces that rank before the one at a place. -/
def rank (descending : Bool) (faces : List Int) (place : Nat) : Nat :=
  (List.range faces.length).countP fun other => Precedes descending faces other place

section Ranks

variable {descending : Bool} {faces : List Int} {place one other : Nat}

theorem Precedes.irrefl (place : Nat) : ¬Precedes descending faces place place := by
  simp only [Precedes]
  omega

theorem Precedes.asymm (h : Precedes descending faces one other) :
    ¬Precedes descending faces other one := by
  simp only [Precedes] at h ⊢
  omega

theorem Precedes.trans {third : Nat} (h : Precedes descending faces one other)
    (next : Precedes descending faces other third) : Precedes descending faces one third := by
  simp only [Precedes] at h next ⊢
  omega

/-- Of equal faces the one at the lower place ranks first. -/
theorem precedes_of_equal (equal : faces.getD one 0 = faces.getD other 0) (lower : one < other) :
    Precedes descending faces one other := by
  simp only [Precedes, equal]
  exact Or.inr ⟨trivial, lower⟩

/-- What ranks before the one ranks before the other too. -/
theorem rank_le_rank (h : Precedes descending faces one other) :
    rank descending faces one ≤ rank descending faces other :=
  List.countP_mono_left fun place _ before => by
    simp only [decide_eq_true_eq] at before ⊢
    exact before.trans h

/-- In a list in order, those with few before them stand at the front. -/
theorem mem_take_iff_countP_lt {α : Type} {before : α → α → Prop} [DecidableRel before]
    (irrefl : ∀ a, ¬before a a) (asymm : ∀ a b, before a b → ¬before b a) {list : List α}
    (sorted : list.Pairwise before) {a : α} (member : a ∈ list) (m : Nat) :
    a ∈ list.take m ↔ list.countP (fun b => before b a) < m := by
  induction list generalizing m with
  | nil => exact absurd member List.not_mem_nil
  | cons first rest ih =>
    obtain ⟨ahead, sorted⟩ := List.pairwise_cons.mp sorted
    cases m with
    | zero => simp
    | succ m =>
      rcases List.mem_cons.mp member with rfl | later
      · have none : rest.countP (fun b => before b a) = 0 :=
          List.countP_eq_zero.mpr fun b inside => by
            simpa using asymm a b (ahead b inside)
        simp [none, irrefl]
      · have first_ne : a ≠ first := fun same => irrefl a (by
          have := ahead a later
          rwa [← same] at this)
        rw [List.take_succ_cons, List.mem_cons, List.countP_cons]
        simp only [first_ne, false_or, ih sorted later m, ahead a later, decide_true, if_true]
        omega

theorem getD_of_mem_zipIdx {entry : Int × Nat} (member : entry ∈ faces.zipIdx) :
    faces.getD entry.2 0 = entry.1 := by
  rw [List.mem_zipIdx_iff_getElem?] at member
  rw [List.getD_eq_getElem?_getD, member, Option.getD_some]

/-- The ranked places are in the order of the ranks. -/
theorem pairwise_rankedPlaces (descending : Bool) (faces : List Int) :
    (rankedPlaces descending faces).Pairwise (Precedes descending faces) := by
  have sorted : (faces.zipIdx.mergeSort (ranksBefore descending)).Pairwise
      fun a b => ranksBefore descending a b = true :=
    List.pairwise_mergeSort (fun a b c => by grind [ranksBefore])
      (fun a b => by grind [ranksBefore]) _
  have distinct := nodup_rankedPlaces descending faces
  rw [rankedPlaces, List.Nodup, List.pairwise_map] at distinct
  rw [rankedPlaces, List.pairwise_map]
  refine (sorted.and distinct).imp_of_mem fun {a b} here there both => ?_
  obtain ⟨before, apart⟩ := both
  have first := getD_of_mem_zipIdx (List.mem_mergeSort.mp here)
  have second := getD_of_mem_zipIdx (List.mem_mergeSort.mp there)
  simp only [Precedes, first, second]
  cases descending <;> simp [ranksBefore] at before ⊢ <;> split at before <;> omega

/-- The places of the first ranks are those with few faces before them. -/
theorem mem_take_rankedPlaces (inside : place < faces.length) (m : Nat) :
    place ∈ (rankedPlaces descending faces).take m ↔ rank descending faces place < m := by
  rw [mem_take_iff_countP_lt Precedes.irrefl (fun _ _ => Precedes.asymm)
    (pairwise_rankedPlaces descending faces) (mem_rankedPlaces.mpr inside),
    (rankedPlaces_perm descending faces).countP_eq, rank]

end Ranks

namespace KeepRule

variable {rule : KeepRule} {count : Nat} {faces : List Int} {place : Nat}

/-- The rule keeps the die at the place. -/
def Keeps (rule : KeepRule) (count : Nat) (faces : List Int) (place : Nat) : Prop :=
  match rule.kind with
  | .dropLowest => min rule.amount (count - 1) ≤ rank false faces place
  | .dropHighest => min rule.amount (count - 1) ≤ rank true faces place
  | .keepHighest => rank true faces place < rule.amount
  | .keepLowest => rank false faces place < rule.amount

theorem mem_chosen (inside : place < faces.length) :
    place ∈ rule.chosen count faces ↔ rank rule.descending faces place <
      if rule.drops then min rule.amount (count - 1) else rule.amount :=
  mem_take_rankedPlaces inside _

/-- What is singled out is dropped or kept, and nothing else is. -/
theorem keeps_iff (inside : place < faces.length) :
    rule.Keeps count faces place ↔ (place ∈ rule.chosen count faces ↔ rule.drops = false) := by
  rw [mem_chosen inside]
  obtain ⟨kind, amount⟩ := rule
  cases kind <;> simp only [Keeps, drops, descending, if_true, Bool.true_eq_false,
    Bool.false_eq_true, if_false, iff_false, iff_true, Nat.not_lt]

/-- A die is kept by its rank. -/
theorem getElem?_keptFlags {flag : Bool}
    (found : (rule.keptFlags count faces)[place]? = some flag) :
    flag = true ↔ rule.Keeps count faces place := by
  obtain ⟨inside, here⟩ := List.getElem?_eq_some_iff.mp found
  rw [length_keptFlags] at inside
  simp only [keptFlags_eq, List.getElem_map, List.getElem_range] at here
  rw [keeps_iff inside, ← List.contains_iff_mem, ← here]
  cases (rule.chosen count faces).contains place <;> cases rule.drops <;> decide

theorem nodup_chosen : (rule.chosen count faces).Nodup :=
  (nodup_rankedPlaces rule.descending faces).sublist (List.take_sublist _ _)

theorem length_chosen : (rule.chosen count faces).length =
    min (if rule.drops then min rule.amount (count - 1) else rule.amount) faces.length := by
  rw [chosen, List.length_take, length_rankedPlaces]

theorem filter_chosen_perm (rule : KeepRule) (count : Nat) (faces : List Int) :
    ((List.range faces.length).filter fun place => (rule.chosen count faces).contains place).Perm
      (rule.chosen count faces) := by
  refine (List.perm_ext_iff_of_nodup (List.nodup_range.filter _) nodup_chosen).mpr fun place => ?_
  have ranked : place ∈ rule.chosen count faces → place < faces.length := fun among =>
    mem_rankedPlaces.mp (List.mem_of_mem_take among)
  simpa using ranked

/-- As many dice are dropped, or kept, as are singled out. -/
theorem count_keptFlags (rule : KeepRule) (count : Nat) (faces : List Int) :
    (rule.keptFlags count faces).count (!rule.drops) = (rule.chosen count faces).length := by
  rw [keptFlags_eq, List.count, List.countP_map, ← (filter_chosen_perm rule count faces).length_eq,
    ← List.countP_eq_length_filter]
  refine List.countP_congr fun place _ => ?_
  rw [Function.comp_apply]
  cases (rule.chosen count faces).contains place <;> cases rule.drops <;> decide

/-- Of equal faces the earlier one is the first to be dropped or kept. -/
theorem Keeps.of_equal {one other : Nat} (equal : faces.getD one 0 = faces.getD other 0)
    (earlier : one < other) :
    if rule.drops then rule.Keeps count faces one → rule.Keeps count faces other
    else rule.Keeps count faces other → rule.Keeps count faces one := by
  have before (descending : Bool) : Precedes descending faces one other :=
    precedes_of_equal equal earlier
  have up := rank_le_rank (before true)
  have down := rank_le_rank (before false)
  obtain ⟨kind, amount⟩ := rule
  cases kind <;> simp only [Keeps, drops, if_true, Bool.false_eq_true, if_false] <;> omega

end KeepRule

namespace DiceTerm

variable {σ : Type} [DrawSource σ]

/-- A group is made of at least as many faces as there are primary dice. -/
theorem groupOf_of_evaluate {term : DiceTerm} {limit : Int} {source after : σ} {group : DiceGroup}
    (rolled : (term.evaluate limit : Rolling σ DiceGroup).run.run source = (.ok group, after)) :
    ∃ faces marks, group = term.groupOf faces marks ∧ marks.length = faces.length ∧
      term.count ≤ faces.length := by
  obtain ⟨primary, between, ran, rolled⟩ := Rolling.run_bind_eq_ok rolled
  obtain ⟨extra, later, _, rolled⟩ := Rolling.run_bind_eq_ok rolled
  obtain ⟨_, _, _, counted, _⟩ := term.draws_faces term.count source primary between ran
  split at rolled
  · cases rolled
    refine ⟨_, _, rfl, by simp, ?_⟩
    rw [List.length_append]
    omega
  · cases rolled

/-- Of a group that is rolled under a keep rule the rule keeps exactly the dice that its ranks say,
among the extra dice as among the primary ones. A drop rule leaves at least one of the primary dice
in number, and of equal faces the earlier one is dropped or kept first. -/
theorem kept_iff_keeps {term : DiceTerm} {rule : KeepRule} {limit : Int} {source after : σ}
    {group : DiceGroup} (given : term.keep = some rule) (positive : 1 ≤ rule.amount)
    (filled : 1 ≤ term.count)
    (rolled : (term.evaluate limit : Rolling σ DiceGroup).run.run source = (.ok group, after)) :
    (∀ place die, group.dice[place]? = some die →
      (die.kept = true ↔ rule.Keeps term.count (group.dice.map Die.result) place)) ∧
    (∀ one other : Nat, ∀ first second, group.dice[one]? = some first →
      group.dice[other]? = some second → first.result = second.result → one < other →
      if rule.drops then first.kept = true → second.kept = true
      else second.kept = true → first.kept = true) ∧
    (if rule.drops then group.droppedDice.length = min rule.amount (term.count - 1)
      else group.keptDice.length = min rule.amount group.dice.length) ∧
    ∃ die ∈ group.dice, die.kept = true := by
  obtain ⟨faces, marks, made, marked, enough⟩ := groupOf_of_evaluate rolled
  have results : group.dice.map Die.result = faces := made ▸ results_groupOf_eq marked
  have flags : group.dice.map Die.kept = rule.keptFlags term.count faces := by
    rw [made, kept_groupOf_eq marked, keptFlags, given]
  have selected : ∀ place die, group.dice[place]? = some die →
      (die.kept = true ↔ rule.Keeps term.count faces place) := by
    intro place die found
    refine KeepRule.getElem?_keptFlags ?_
    rw [← flags, List.getElem?_map, found]
    rfl
  have counted (flag : Bool) : (group.dice.filter fun die => die.kept == flag).length =
      (rule.keptFlags term.count faces).count flag := by
    rw [← flags, List.count, List.countP_map, List.countP_eq_length_filter]
    rfl
  rw [results]
  refine ⟨selected, ?_, ?_, ?_⟩
  · intro one other first second here there equal earlier
    have same : faces.getD one 0 = faces.getD other 0 := by
      simp only [← results, List.getD_eq_getElem?_getD, List.getElem?_map, here, there,
        Option.map_some, equal]
    rw [selected one first here, selected other second there]
    exact KeepRule.Keeps.of_equal same earlier
  · have size := KeepRule.count_keptFlags rule term.count faces
    rw [KeepRule.length_chosen] at size
    have long : group.dice.length = faces.length := by rw [← results, List.length_map]
    cases drops : rule.drops with
    | true =>
      rw [drops, if_pos rfl, Bool.not_true, ← counted] at size
      have dropped : group.droppedDice = group.dice.filter fun die => die.kept == false := by
        simp [DiceGroup.droppedDice]
      rw [if_pos rfl, dropped, size]
      omega
    | false =>
      rw [drops, if_neg Bool.false_ne_true, Bool.not_false, ← counted] at size
      have kept : group.keptDice = group.dice.filter fun die => die.kept == true := by
        simp [DiceGroup.keptDice]
      rw [if_neg Bool.false_ne_true, kept, size, long]
  · have some := KeepRule.true_mem_keptFlags positive filled enough
    rw [← flags] at some
    exact List.mem_map.mp some

/-- Three dice and an extra one, of which five are to be dropped. -/
def cappedDice : DiceTerm := ⟨3, 6, some ⟨.dropLowest, 5⟩, some 6, 0, []⟩

/-- Of the three equal faces the last one is kept. -/
def cappedGroup : DiceGroup where
  term := some cappedDice
  sides := 6
  count := 3
  dice := [⟨2, 6, false, false⟩, ⟨6, 6, true, true⟩, ⟨2, 6, false, false⟩, ⟨2, 6, true, false⟩]
  subtotal := 8

def cappedSupply (next : Nat) : Supply := .cycle [.integer 2, .integer 6, .integer 2] next

theorem isWritable_cappedDice : cappedDice.isWritable = true := by
  have small {n : Nat} (digit : n < 10) : Numeral.fits n = true :=
    Numeral.fits_natCast.mpr (Nat.lt_of_lt_of_le digit (Nat.le_self_pow (by decide) 10))
  refine isWritable_iff.mpr ⟨small (by decide), small (by decide), small (n := 0) (by decide),
    fun _ given => ?_, fun _ given => ?_⟩
  · cases given
    exact small (n := 6) (by decide)
  · cases given
    exact small (by decide)

theorem run_cappedDice : (cappedDice.evaluate 50 : Rolling Supply DiceGroup).run.run
    (cappedSupply 0) = (.ok cappedGroup, cappedSupply 4) := by
  rw [evaluate, isWritable_cappedDice]
  cbv

theorem kept_iff_keeps_cappedDice :
    (cappedDice.evaluate 50 : Rolling Supply DiceGroup).run.run (cappedSupply 0) =
      (.ok cappedGroup, cappedSupply 4) ∧
    (∀ place die, cappedGroup.dice[place]? = some die →
      (die.kept = true ↔ min 5 2 ≤ rank false [2, 6, 2, 2] place)) ∧
    (∀ one other : Nat, ∀ first second, cappedGroup.dice[one]? = some first →
      cappedGroup.dice[other]? = some second → first.result = second.result → one < other →
      first.kept = true → second.kept = true) ∧
    cappedGroup.droppedDice.length = min 5 2 ∧ ∃ die ∈ cappedGroup.dice, die.kept = true := by
  have given : cappedDice.keep = some ⟨.dropLowest, 5⟩ := rfl
  exact ⟨run_cappedDice, kept_iff_keeps given (by decide) (by decide) run_cappedDice⟩

end DiceTerm

end Tabletop
