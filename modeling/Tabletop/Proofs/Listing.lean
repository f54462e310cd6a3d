import Tabletop.Proofs.Answering
import Tabletop.Proofs.Isolation

/-!
# Open tables under their ids

Ids are numerals, so that no two attempts have the same, and a registry that started empty has at
most one table of an id. What an operation on the registry does is said here by what is found under
each id afterwards.
-/
namespace Tabletop

namespace Registry

variable {σ : Type} {registry : Registry σ}

theorem idOf_injective {one other : Nat} (same : idOf one = idOf other) : one = other := by
  have numbers := congrArg Text.hexNumber? same
  rw [idOf, idOf, Text.hexNumber?_hex, Text.hexNumber?_hex] at numbers
  exact Option.some.inj numbers

theorem placeOf?_eq_none_iff {id : Text} :
    registry.placeOf? id = none ↔ registry.find? id = none := by
  rw [← Option.not_isSome_iff_eq_none, ← Option.not_isSome_iff_eq_none, isSome_find?]

theorem exists_of_find? {id : Text} {table : Table σ} (found : registry.find? id = some table) :
    ∃ place, registry.placeOf? id = some place ∧ registry.tables[place]? = some table := by
  rw [find?_eq_bind] at found
  exact Option.bind_eq_some_iff.mp found

theorem id_of_find? {id : Text} {table : Table σ} (found : registry.find? id = some table) :
    table.id = id := by
  have borne := List.find?_some found
  simp only [bears, Bool.and_eq_true, beq_iff_eq] at borne
  exact borne.2

theorem mem_all_of_find? {id : Text} {table : Table σ} (found : registry.find? id = some table) :
    table ∈ registry.all := by
  have borne := List.find?_some found
  simp only [bears, Bool.and_eq_true] at borne
  exact List.mem_filter.mpr ⟨List.mem_of_find?_eq_some found, borne.1⟩

theorem isSome_find?_iff {id : Text} :
    (registry.find? id).isSome = true ↔ ∃ table ∈ registry.all, table.id = id := by
  rw [find?, List.find?_isSome]
  simp only [bears, Bool.and_eq_true, beq_iff_eq, all, List.mem_filter, and_assoc]

/-- Where ids are unique, the table that is found is the one listed under the id. -/
theorem find?_eq_some_iff (nodup : (registry.tables.map Table.id).Nodup) {id : Text}
    {table : Table σ} :
    registry.find? id = some table ↔ table ∈ registry.all ∧ table.id = id := by
  constructor
  · exact fun found => ⟨mem_all_of_find? found, id_of_find? found⟩
  · rintro ⟨member, rfl⟩
    obtain ⟨other, found⟩ := Option.isSome_iff_exists.mp
      (isSome_find?_iff.mpr ⟨table, member, rfl⟩)
    rw [found]
    exact congrArg some (List.inj_on_of_nodup_map nodup (List.mem_of_find?_eq_some found)
      (List.mem_filter.mp member).1 (id_of_find? found))

/-! ### What is found after an operation -/

/-- Another table of the same outline is found in the place of the one that is open there. -/
theorem find?_put {id : Text} {place : Nat} {table changed : Table σ}
    (bears : registry.placeOf? id = some place) (here : registry.tables[place]? = some table)
    (same : changed.outline = table.outline) (other : Text) :
    (registry.put place changed).find? other =
      if other = id then some changed else registry.find? other := by
  obtain ⟨inside, at_place⟩ := List.getElem?_eq_some_iff.mp here
  have outlines : (registry.put place changed).tables.map Table.outline =
      registry.tables.map Table.outline := by
    rw [put, List.map_set, same, ← at_place, ← List.map_set, List.set_getElem_self]
  rw [find?_eq_bind, placeOf?_of_outlines outlines]
  by_cases own : other = id
  · rw [if_pos own, own, bears]
    exact List.getElem?_set_self inside
  · rw [if_neg own, find?_eq_bind]
    cases elsewhere : registry.placeOf? other with
    | none => rfl
    | some spot =>
      obtain ⟨first, at_first, _, first_id⟩ := exists_of_placeOf? bears
      obtain ⟨second, at_second, _, second_id⟩ := exists_of_placeOf? elsewhere
      have apart : place ≠ spot := by
        rintro rfl
        rw [at_first] at at_second
        exact own (by rw [← first_id, ← second_id, Option.some.inj at_second])
      exact List.getElem?_set_ne apart

theorem bears_closed (id other : Text) (table : Table σ) :
    bears other (closed id table) = (bears other table && other != id) := by
  rw [closed]
  by_cases borne : bears id table = true
  · rw [if_pos borne]
    simp only [bears, Bool.and_eq_true, beq_iff_eq] at borne
    have apart : (table.id == other && other != id) = false := by
      rw [borne.2, Bool.eq_false_iff, Ne, Bool.and_eq_true, beq_iff_eq, bne_iff_ne]
      exact fun both => both.2 both.1.symm
    simp only [bears, Bool.false_and, Bool.and_assoc, apart, Bool.and_false]
  · rw [if_neg borne]
    by_cases own : other = id
    · subst own
      simp [Bool.eq_false_iff.mpr borne]
    · simp [own]

/-- A closed table is not found, and any other is. -/
theorem find?_delete (id other : Text) (registry : Registry σ) :
    (registry.delete id).2.find? other = if other = id then none else registry.find? other := by
  have seen : bears (σ := σ) other ∘ closed id = fun table => bears other table && other != id :=
    funext (bears_closed id other)
  simp only [delete, find?, List.find?_map, seen]
  by_cases own : other = id
  · simp [own]
  · have apart : (other != id) = true := bne_iff_ne.mpr own
    simp only [own, if_false, apart, Bool.and_true]
    cases found : registry.tables.find? (bears other) with
    | none => rfl
    | some table =>
      have borne : bears id table = false := by
        rw [Bool.eq_false_iff]
        intro borne
        simp only [bears, Bool.and_eq_true, beq_iff_eq] at borne
        exact own ((id_of_find? found).symm.trans borne.2)
      rw [Option.map_some, closed, borne]
      rfl

theorem find?_append {table : Table σ} (listed : table.listed = true) (attempts : Nat)
    (other : Text) :
    Registry.find? other { registry with
        tables := registry.tables ++ [table]
        attempts := attempts } =
      (registry.find? other).or (if table.id = other then some table else none) := by
  simp only [find?, List.find?_append, List.find?_cons, List.find?_nil]
  by_cases own : table.id = other
  · simp [bears, listed, own]
  · have other : (table.id == other) = false := beq_eq_false_iff_ne.mpr own
    simp [bears, own, other]

/-! ### One id for each attempt -/

/-- An attempt so far has had the id. -/
def IsSpent (id : Text) (registry : Registry σ) : Prop := ∃ n ≤ registry.attempts, id = idOf n

/-- Ids come from attempts, and no two tables have the same. -/
structure Numbered (registry : Registry σ) : Prop where
  spent : ∀ table ∈ registry.tables, registry.IsSpent table.id
  nodup : (registry.tables.map Table.id).Nodup

theorem numbered_start (defaults : TableDefaults σ) : (start defaults).Numbered where
  spent := List.forall_mem_nil _
  nodup := List.nodup_nil

namespace Numbered

theorem of_ids {after : Registry σ} (numbered : registry.Numbered)
    (ids : after.tables.map Table.id = registry.tables.map Table.id)
    (attempts : registry.attempts ≤ after.attempts) : after.Numbered where
  spent := by
    intro table member
    have listed := List.mem_map_of_mem (f := Table.id) member
    rw [ids] at listed
    obtain ⟨before, inside, same⟩ := List.mem_map.mp listed
    obtain ⟨n, bound, number⟩ := numbered.spent before inside
    exact ⟨n, Nat.le_trans bound attempts, same ▸ number⟩
  nodup := ids ▸ numbered.nodup

theorem append (numbered : registry.Numbered) {table : Table σ}
    (next : table.id = idOf (registry.attempts + 1)) :
    Registry.Numbered { registry with
      tables := registry.tables ++ [table]
      attempts := registry.attempts + 1 } where
  spent := by
    intro other member
    rcases List.mem_append.mp member with before | new
    · obtain ⟨n, bound, number⟩ := numbered.spent other before
      exact ⟨n, Nat.le_succ_of_le bound, number⟩
    · rw [List.mem_singleton.mp new]
      exact ⟨_, Nat.le_refl _, next⟩
  nodup := by
    rw [List.map_append, List.nodup_append]
    refine ⟨numbered.nodup, List.nodup_singleton _, fun one before other new => ?_⟩
    obtain ⟨table, member, rfl⟩ := List.mem_map.mp before
    obtain ⟨n, bound, number⟩ := numbered.spent table member
    rw [List.mem_singleton.mp new, number, next]
    intro same
    have := idOf_injective same
    omega

theorem find?_of_mem (numbered : registry.Numbered) {table : Table σ}
    (member : table ∈ registry.all) : registry.find? table.id = some table :=
  (find?_eq_some_iff numbered.nodup).mpr ⟨member, rfl⟩

theorem isSpent_of_find? (numbered : registry.Numbered) {id : Text} {table : Table σ}
    (found : registry.find? id = some table) : registry.IsSpent id :=
  id_of_find? found ▸ numbered.spent table (List.mem_of_find?_eq_some found)

end Numbered

end Registry

end Tabletop
