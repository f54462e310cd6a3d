import Mathlib.Data.List.Nodup
import Tabletop.DiceGroup

/-!
# Ranking

A ranking of faces has every place of theirs once. A keep rule with a positive amount therefore
leaves at least one die: a drop rule stops one short of the primary dice, and a keep rule has a
first ranked die to keep.
-/
namespace Tabletop

theorem rankedPlaces_perm (descending : Bool) (faces : List Int) :
    (rankedPlaces descending faces).Perm (List.range faces.length) := by
  have sorted := (List.mergeSort_perm faces.zipIdx (ranksBefore descending)).map Prod.snd
  rwa [List.zipIdx_map_snd, ← List.range_eq_range'] at sorted

theorem length_rankedPlaces (descending : Bool) (faces : List Int) :
    (rankedPlaces descending faces).length = faces.length := by
  rw [(rankedPlaces_perm descending faces).length_eq, List.length_range]

theorem nodup_rankedPlaces (descending : Bool) (faces : List Int) :
    (rankedPlaces descending faces).Nodup :=
  (rankedPlaces_perm descending faces).nodup_iff.mpr List.nodup_range

theorem mem_rankedPlaces {descending : Bool} {faces : List Int} {place : Nat} :
    place ∈ rankedPlaces descending faces ↔ place < faces.length := by
  rw [(rankedPlaces_perm descending faces).mem_iff, List.mem_range]

namespace KeepRule

variable (rule : KeepRule) (count : Nat) (faces : List Int)

/-- The places that the rule singles out, to be dropped or to be kept. -/
def chosen : List Nat :=
  (rankedPlaces rule.descending faces).take
    (if rule.drops then min rule.amount (count - 1) else rule.amount)

theorem keptFlags_eq : rule.keptFlags count faces =
    (List.range faces.length).map fun place =>
      (rule.chosen count faces).contains place != rule.drops :=
  rfl

@[simp] theorem length_keptFlags : (rule.keptFlags count faces).length = faces.length := by
  simp [keptFlags_eq]

variable {rule count faces}

/-- A ranked place beyond those that are dropped. -/
theorem exists_not_chosen (drops : rule.drops = true) (primary : 1 ≤ count)
    (enough : count ≤ faces.length) :
    ∃ place < faces.length, place ∉ rule.chosen count faces := by
  have short : min rule.amount (count - 1) < (rankedPlaces rule.descending faces).length := by
    rw [length_rankedPlaces]
    omega
  have beyond := List.getElem_mem short
  refine ⟨_, mem_rankedPlaces.mp beyond, fun inside => ?_⟩
  rw [chosen, if_pos drops] at inside
  have distinct := nodup_rankedPlaces rule.descending faces
  refine List.disjoint_take_drop distinct (Nat.le_refl _) inside ?_
  rw [List.drop_eq_getElem_cons short]
  exact List.mem_cons_self

/-- The first ranked place is among those that are kept. -/
theorem exists_chosen (count : Nat) (keeps : rule.drops = false) (positive : 1 ≤ rule.amount)
    (filled : 1 ≤ faces.length) :
    ∃ place < faces.length, place ∈ rule.chosen count faces := by
  have first : 0 < (rankedPlaces rule.descending faces).length := by
    rw [length_rankedPlaces]
    exact filled
  refine ⟨_, mem_rankedPlaces.mp (List.getElem_mem first), ?_⟩
  rw [chosen, if_neg (by rw [keeps]; decide)]
  exact List.mem_take_iff_getElem.mpr ⟨0, by omega, rfl⟩

theorem true_mem_keptFlags (positive : 1 ≤ rule.amount) (primary : 1 ≤ count)
    (enough : count ≤ faces.length) : true ∈ rule.keptFlags count faces := by
  rw [keptFlags_eq, List.mem_map]
  cases drops : rule.drops with
  | true =>
    obtain ⟨place, inside, apart⟩ := exists_not_chosen drops primary enough
    exact ⟨place, List.mem_range.mpr inside, by simpa using apart⟩
  | false =>
    obtain ⟨place, inside, among⟩ :=
      exists_chosen count drops positive (Nat.le_trans primary enough)
    exact ⟨place, List.mem_range.mpr inside, by simpa using among⟩

end KeepRule

namespace DiceTerm

variable {term : DiceTerm} {faces : List Int}

@[simp] theorem length_keptFlags (term : DiceTerm) (faces : List Int) :
    (term.keptFlags faces).length = faces.length := by
  rw [keptFlags]
  split <;> simp

theorem true_mem_keptFlags (positive : ∀ rule ∈ term.keep, 1 ≤ rule.amount)
    (primary : 1 ≤ term.count) (enough : term.count ≤ faces.length) :
    true ∈ term.keptFlags faces := by
  rw [keptFlags]
  split
  · have filled : faces ≠ [] := by
      intro empty
      rw [empty, List.length_nil] at enough
      omega
    obtain ⟨face, inside⟩ := List.exists_mem_of_ne_nil faces filled
    exact List.mem_map.mpr ⟨face, inside, rfl⟩
  next rule given => exact KeepRule.true_mem_keptFlags (positive rule given) primary enough

end DiceTerm

end Tabletop
