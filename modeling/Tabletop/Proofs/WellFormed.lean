import Tabletop.Proofs.Digits
import Tabletop.Proofs.Segments

/-!
# Well-formed terms

Terms that come out of parsing are within the limits, have no void modifier and no number that
cannot be written, and a bonus stands only where a modifier does.
-/
namespace Tabletop

/-- What holds of every dice term that is read within the limits. -/
structure DiceTerm.WellFormed (limits : Limits) (term : DiceTerm) : Prop where
  count_pos : 1 ≤ term.count
  count_le : (term.count : Int) ≤ limits.dice
  sides_pos : 1 ≤ term.sides
  sides_le : (term.sides : Int) ≤ limits.sides
  amount_pos : ∀ rule ∈ term.keep, 1 ≤ rule.amount
  threshold_pos : ∀ threshold ∈ term.burst, 1 ≤ threshold
  bonus_bound : term.bonus ≠ 0 → term.keep.isSome = true ∨ term.burst.isSome = true
  writable : term.isWritable = true

/-- Of an integer it is only said that it can be written. -/
def Term.WellFormed (limits : Limits) : Term → Prop
  | .dice term => term.WellFormed limits
  | .flat term => Numeral.fits term.value = true

/-- The numbers of a term, one by one. -/
theorem DiceTerm.isWritable_iff {term : DiceTerm} : term.isWritable = true ↔
    Numeral.fits term.count = true ∧ Numeral.fits term.sides = true ∧
      Numeral.fits term.bonus = true ∧
      (∀ threshold ∈ term.burst, Numeral.fits threshold = true) ∧
      ∀ rule ∈ term.keep, Numeral.fits rule.amount = true := by
  simp [isWritable, numerals, List.all_append]

namespace Notation

theorem fits_amountOf {digits : Text} (short : digits.length ≤ Numeral.maxDigits) :
    Numeral.fits (amountOf digits) = true := by
  unfold amountOf
  split
  · exact Numeral.fits_small (n := 1) (by decide)
  · exact Numeral.fits_value short

theorem fits_value {number : Whole} (short : number.digits.length ≤ Numeral.maxDigits) :
    Numeral.fits number.value = true := by
  have size := Numeral.fits_iff.mp (Numeral.fits_value short)
  rw [Numeral.fits_iff, Whole.value]
  split <;> omega

/-- Only a keep piece that was taken gives a rule. -/
theorem Part.eq_of_rule? {part : Part} {rule : KeepRule} (h : part.rule? = some rule) :
    ∃ amount, part = ⟨.keep rule.kind amount, true⟩ ∧ rule.amount = amountOf amount := by
  obtain ⟨piece, taken⟩ := part
  unfold rule? at h
  split at h
  next kind amount took kept =>
    dsimp only at took kept
    cases h
    exact ⟨amount, by rw [took, kept], rfl⟩
  · exact nomatch h

/-- Only a burst piece that was taken gives a threshold. -/
theorem Part.eq_of_threshold? {part : Part} {sides : Nat} {threshold : Int}
    (h : part.threshold? sides = some threshold) :
    ∃ digits, part = ⟨.burst digits, true⟩ ∧
      threshold = (digits.elim sides Numeral.value : Nat) := by
  obtain ⟨piece, taken⟩ := part
  unfold threshold? at h
  split at h
  next digits took burst =>
    dsimp only at took burst
    cases h
    exact ⟨digits, by rw [took, burst], rfl⟩
  · exact nomatch h

namespace Layout.IsSound

variable {limits : Limits} {layout : Layout}

theorem keep (sound : layout.IsSound limits) {rule : KeepRule} (given : rule ∈ layout.term.keep) :
    1 ≤ rule.amount ∧ Numeral.fits rule.amount = true := by
  obtain ⟨part, inside, found⟩ := List.mem_filterMap.mp (List.mem_of_head? given)
  obtain ⟨amount, rfl, value⟩ := Part.eq_of_rule? found
  refine ⟨?_, ?_⟩
  · rcases sound.parts _ inside rfl with ⟨other, same, positive⟩ | ⟨_, same, _⟩
    · cases found.symm.trans same
      exact positive
    · exact nomatch same
  · rw [value]
    exact fits_amountOf (sound.short _ inside)

theorem burst (sound : layout.IsSound limits) {threshold : Int}
    (given : threshold ∈ layout.term.burst) :
    1 ≤ threshold ∧ Numeral.fits threshold = true := by
  obtain ⟨part, inside, found⟩ := List.mem_filterMap.mp (List.mem_of_head? given)
  obtain ⟨digits, rfl, rfl⟩ := Part.eq_of_threshold? found
  refine ⟨?_, ?_⟩
  · rcases sound.parts _ inside rfl with ⟨_, same, _⟩ | ⟨other, same, positive⟩
    · exact nomatch same
    · cases same
      exact positive
  · cases digits with
    | none => exact Numeral.fits_value sound.sides.2
    | some digits => exact Numeral.fits_value (sound.short _ inside digits rfl)

theorem bonus (sound : layout.IsSound limits) :
    (layout.term.bonus ≠ 0 →
        layout.term.keep.isSome = true ∨ layout.term.burst.isSome = true) ∧
      Numeral.fits layout.term.bonus = true := by
  cases bound : layout.bound with
  | none =>
    have zero : layout.term.bonus = 0 := by simp [Layout.term, bound]
    rw [zero]
    exact ⟨fun h => absurd rfl h, Numeral.fits_zero⟩
  | some number =>
    obtain ⟨_, ⟨_, short⟩, _, modified⟩ := sound.bound number bound
    have value : layout.term.bonus = number.value := by simp [Layout.term, bound]
    rw [value]
    exact ⟨fun _ => DiceTerm.hasModifier_iff.mp modified, fits_value short⟩

/-- Sound text is read as a well-formed term: each bound comes from the number read for it, since
no number that is read is too long to be written. -/
theorem wellFormed (sound : layout.IsSound limits) : layout.term.WellFormed limits where
  count_pos := sound.count_pos
  count_le := sound.count_le
  sides_pos := sound.sides_pos
  sides_le := sound.sides_le
  amount_pos := fun _ given => (sound.keep given).1
  threshold_pos := fun _ given => (sound.burst given).1
  bonus_bound := sound.bonus.1
  writable := DiceTerm.isWritable_iff.mpr ⟨fits_amountOf sound.count.2,
    Numeral.fits_value sound.sides.2, sound.bonus.2, fun _ given => (sound.burst given).2,
    fun _ given => (sound.keep given).2⟩

end Layout.IsSound

/-- Whatever is parsed is well formed. -/
theorem wellFormed_of_parse {limits : Limits} {raw : Text} {parsed : Parsed}
    (h : parse limits raw = .ok parsed) : ∀ term ∈ parsed.terms, term.WellFormed limits := by
  obtain ⟨_, read⟩ := parse_success h
  obtain ⟨segments, tiles⟩ := tiles_of_readTerms (isCut_lexemes _) read
  rw [tiles.terms]
  intro term member
  obtain ⟨segment, inside, found⟩ := List.mem_filterMap.mp member
  have sound := tiles.sound segment inside
  cases segment with
  | junk text => exact nomatch found
  | flat number =>
    cases found
    exact fits_value sound.2.2
  | dice plus layout =>
    cases found
    exact sound.wellFormed

theorem wellFormed_diceTerms {limits : Limits} {raw : Text} {parsed : Parsed}
    (h : parse limits raw = .ok parsed) : ∀ term ∈ parsed.diceTerms, term.WellFormed limits := by
  intro term member
  obtain ⟨other, inside, found⟩ := List.mem_filterMap.mp member
  have wellFormed := wellFormed_of_parse h other inside
  cases other with
  | flat other => exact nomatch found
  | dice other =>
    cases found
    exact wellFormed

/-- The text of a parsed dice term never fails to be written. -/
theorem writable_of_parse {limits : Limits} {raw : Text} {parsed : Parsed}
    (h : parse limits raw = .ok parsed) : ∀ term ∈ parsed.diceTerms, term.isWritable = true :=
  fun term member => (wellFormed_diceTerms h term member).writable

end Notation

end Tabletop
