import Tabletop.Proofs.Alike
import Tabletop.Proofs.Parsing
import Tabletop.Proofs.WellFormed

/-!
# The formula of a parsed expression

The formula is text of the grammar, so it parses again, to dice of the same shapes and to the same
sum of constants. A constant may change its place: an integer that stood apart from open dice is
bound to them in the formula. The dice and the total do not show the difference.
-/
namespace Tabletop

namespace DiceTerm

/-- The term without the text that it was read from. -/
def bare (term : DiceTerm) : DiceTerm := { term with source := [] }

/-- A signed integer after these dice would be read as theirs. -/
def isOpen (term : DiceTerm) : Bool := term.hasModifier && term.bonus == 0

end DiceTerm

namespace Term

/-- The term without the text that it was read from. -/
def bare : Term → Term
  | .dice term => .dice term.bare
  | .flat term => .flat ⟨term.value, []⟩

def isOpen : Term → Bool
  | .dice term => term.isOpen
  | .flat _ => false

/-- What decides how the dice of a term fall. -/
def shape? (term : Term) : Option (Nat × Nat × Option KeepRule × Option Int) :=
  term.dice?.map DiceTerm.shape

/-- What a term adds to the total beside its dice. -/
def constant : Term → Int
  | .dice term => term.bonus
  | .flat term => term.value

theorem shape?_bare (term : Term) : term.bare.shape? = term.shape? := by
  cases term <;> rfl

theorem constant_bare (term : Term) : term.bare.constant = term.constant := by
  cases term <;> rfl

end Term

theorem Parsed.shapes_eq (parsed : Parsed) :
    parsed.diceTerms.map DiceTerm.shape = parsed.terms.filterMap Term.shape? := by
  rw [diceTerms, List.map_filterMap]
  rfl

theorem Parsed.constant_eq (parsed : Parsed) :
    parsed.constant = Numeral.sum (parsed.terms.map Term.constant) := by
  rw [constant, diceTerms, flatTerms]
  induction parsed.terms with
  | nil => rfl
  | cons term rest ih =>
    cases term with
    | dice term =>
      simp only [List.filterMap_cons, Term.dice?, Term.flat?, List.map_cons, Numeral.sum,
        Term.constant]
      omega
    | flat term =>
      simp only [List.filterMap_cons, Term.dice?, Term.flat?, List.map_cons, Numeral.sum,
        Term.constant]
      omega

namespace Notation

/-- Written terms read as dice of the shapes that were written. -/
theorem shapes_readings (terms : List WrittenTerm) :
    (readings terms).filterMap Term.shape? =
      (terms.map WrittenTerm.term).filterMap Term.shape? := by
  fun_induction readings terms with
  | case1 => rfl
  | case2 plus written number rest bound ih =>
    have apart : (WrittenTerm.flat number).term.shape? = none := rfl
    simp only [List.map_cons, List.filterMap_cons, ih, apart]
    rfl
  | case3 plus written number rest apart ih =>
    simp only [List.map_cons, List.filterMap_cons, ih]
  | case4 term rest noFlat ih =>
    simp only [List.map_cons, List.filterMap_cons, ih]

/-- An integer that is taken into open dice counts as it did apart from them. -/
theorem constants_readings (terms : List WrittenTerm) :
    Numeral.sum ((readings terms).map Term.constant) =
      Numeral.sum ((terms.map WrittenTerm.term).map Term.constant) := by
  fun_induction readings terms with
  | case1 => rfl
  | case2 plus written number rest bound ih =>
    rw [WrittenDice.isOpen, Bool.and_eq_true, Bool.and_eq_true, Option.isNone_iff_eq_none] at bound
    have free : written.term.bonus = 0 := by simp [WrittenDice.term, bound.1.2]
    simp only [List.map_cons, Numeral.sum, ih, WrittenTerm.term, Term.constant,
      DiceTerm.withBonus, free]
    omega
  | case3 plus written number rest apart ih =>
    simp only [List.map_cons, Numeral.sum, ih]
  | case4 term rest noFlat ih =>
    simp only [List.map_cons, Numeral.sum, ih]

/-! ### A way to write each term -/

theorem exists_run {n : Nat} (fits : Numeral.fits n = true) :
    ∃ run : DigitRun, run.text = Numeral.digits n ∧ run.value = n :=
  ⟨DigitRun.ofNat n fits, rfl, DigitRun.value_ofNat n fits⟩

/-- The sign of an integer, which zero and more may leave out. -/
theorem exists_integer {value : Int} (fits : Numeral.fits value = true) (sign : Option Sign)
    (minus : sign = some .minus ↔ value < 0) :
    ∃ number : WrittenInteger, number.sign = sign ∧
      number.text = signText sign ++ Numeral.digits value.natAbs ∧ number.value = value := by
  obtain ⟨run, text, size⟩ := exists_run (Numeral.fits_natCast.mpr (Numeral.fits_iff.mp fits))
  refine ⟨⟨sign, run⟩, rfl, ?_, ?_⟩
  · rw [WrittenInteger.text, text]
  · rw [WrittenInteger.value, size]
    split
    next negative =>
      have := minus.mp negative
      omega
    next positive =>
      have := mt minus.mpr positive
      omega

/-- The sign that a signed numeral has. -/
def signOf (value : Int) : Sign := if value < 0 then .minus else .plus

theorem exists_signed {value : Int} (fits : Numeral.fits value = true) :
    ∃ number : WrittenInteger, number.sign.isSome = true ∧
      number.text = Numeral.signed value ∧ number.value = value := by
  obtain ⟨number, sign, text, same⟩ := exists_integer fits (some (signOf value)) (by simp [signOf])
  refine ⟨number, by rw [sign]; rfl, ?_, same⟩
  rw [text, Numeral.signed, signOf]
  split <;> rfl

theorem exists_plain {value : Int} (fits : Numeral.fits value = true) :
    ∃ number : WrittenInteger, number.text = Numeral.written value ∧ number.value = value := by
  obtain ⟨number, _, text, same⟩ := exists_integer fits (if value < 0 then some .minus else none)
    (by simp)
  refine ⟨number, ?_, same⟩
  rw [text, Numeral.written]
  split <;> rfl

theorem exists_keep {term : DiceTerm} (fits : ∀ rule ∈ term.keep, Numeral.fits rule.amount = true) :
    ∃ keep : Option WrittenKeep, keep.elim [] WrittenKeep.text = term.keepText ∧
      keep.map WrittenKeep.rule = term.keep := by
  rw [DiceTerm.keepText]
  cases given : term.keep with
  | none => exact ⟨none, rfl, rfl⟩
  | some rule =>
    obtain ⟨run, text, amount⟩ := exists_run (fits rule given)
    refine ⟨some ⟨rule.kind, some run⟩, ?_, ?_⟩
    · simp [WrittenKeep.text, DigitRun.textOf, KeepRule.text, text]
    · simp [WrittenKeep.rule, amount]

/-- A threshold at the sides is left out. -/
theorem exists_burst {term : DiceTerm} (positive : ∀ threshold ∈ term.burst, 1 ≤ threshold)
    (fits : ∀ threshold ∈ term.burst, Numeral.fits threshold = true) :
    ∃ burst : Option WrittenBurst, burst.elim [] WrittenBurst.text = term.burstText ∧
      (burst.map fun burst => (burst.value term.sides : Int)) = term.burst := by
  rw [DiceTerm.burstText]
  cases given : term.burst with
  | none => exact ⟨none, rfl, rfl⟩
  | some threshold =>
    have : 1 ≤ threshold := positive threshold given
    by_cases highest : threshold = term.sides
    · refine ⟨some ⟨none⟩, ?_, ?_⟩
      · simp [WrittenBurst.text, highest]
      · simp [WrittenBurst.value, highest]
    · obtain ⟨run, text, size⟩ := exists_run (Numeral.fits_natCast.mpr
        (Numeral.fits_iff.mp (fits threshold given)))
      have nonneg : ¬threshold < 0 := by omega
      refine ⟨some ⟨some run⟩, ?_, ?_⟩
      · simp [WrittenBurst.text, highest, text, Numeral.written, nonneg]
      · simp only [Option.map_some, WrittenBurst.value, Option.elim_some, size]
        congr 1
        omega

theorem exists_bonus {value : Int} (fits : Numeral.fits value = true) :
    ∃ bonus : Option WrittenInteger,
      bonus.elim [] WrittenInteger.text = DiceTerm.bonusText value ∧
      bonus.elim 0 WrittenInteger.value = value ∧
      (∀ number ∈ bonus, number.sign.isSome = true) ∧
      (bonus.isSome = true → value ≠ 0) := by
  rw [DiceTerm.bonusText]
  by_cases zero : value = 0
  · exact ⟨none, by simp [zero], zero.symm, (fun _ given => nomatch given), (nomatch ·)⟩
  · obtain ⟨number, signed, text, same⟩ := exists_signed fits
    refine ⟨some number, by simp [zero, text], same, ?_, fun _ => zero⟩
    intro other given
    cases given
    exact signed

/-- The dice are written piece by piece as in their canonical text. -/
structure Copies (limits : Limits) (written : WrittenDice) (term : DiceTerm) : Prop where
  admissible : written.Admissible limits
  count : DigitRun.textOf written.count = Numeral.digits term.count
  sides : written.sides.text = Numeral.digits term.sides
  modifier : written.keepFirst = false ∧ written.burstText = term.burstText ∧
    written.keepText = term.keepText
  bonus : written.bonusText = DiceTerm.bonusText term.bonus
  bare : written.term.bare = term.bare
  isOpen : written.isOpen = term.isOpen

theorem Copies.text {limits : Limits} {written : WrittenDice} {term : DiceTerm}
    (copies : Copies limits written term) : written.text = term.text := by
  obtain ⟨burstFirst, burst, keep⟩ := copies.modifier
  simp [WrittenDice.text, WrittenDice.stem, WrittenDice.modifierText, burstFirst, copies.count,
    copies.sides, burst, keep, copies.bonus, DiceTerm.text, DiceTerm.modifierText]

theorem exists_copy {limits : Limits} {term : DiceTerm} (wellFormed : term.WellFormed limits) :
    ∃ written : WrittenDice, Copies limits written term := by
  obtain ⟨countFits, sidesFits, bonusFits, burstFits, keepFits⟩ :=
    DiceTerm.isWritable_iff.mp wellFormed.writable
  obtain ⟨count, countText, countValue⟩ := exists_run countFits
  obtain ⟨sides, sidesText, sidesValue⟩ := exists_run sidesFits
  obtain ⟨keep, keepText, rule⟩ := exists_keep keepFits
  obtain ⟨burst, burstText, threshold⟩ := exists_burst wellFormed.threshold_pos burstFits
  obtain ⟨bonus, bonusText, bonusValue, signed, bound⟩ := exists_bonus bonusFits
  let written : WrittenDice := ⟨some count, sides, keep, burst, false, bonus⟩
  have same : written.term = { term with source := written.text } := by
    simp only [written, WrittenDice.term, Option.elim_some, countValue, sidesValue, rule,
      threshold, bonusValue]
  have modified : written.hasModifier = term.hasModifier := by
    rw [← written.hasModifier_term, same]
    rfl
  have free : written.bonus.isNone = (term.bonus == 0) := by
    change bonus.isNone = (term.bonus == 0)
    cases bonus with
    | none => exact (beq_iff_eq.mpr bonusValue.symm).symm
    | some number => exact (beq_eq_false_iff_ne.mpr (bound rfl)).symm
  have admissible : written.Admissible limits :=
    { count_pos := by rw [same]; exact wellFormed.count_pos
      count_le := by rw [same]; exact wellFormed.count_le
      sides_pos := by rw [same]; exact wellFormed.sides_pos
      sides_le := by rw [same]; exact wellFormed.sides_le
      amount_pos := fun given inside => wellFormed.amount_pos given.rule
        (rule ▸ Option.mem_map_of_mem WrittenKeep.rule inside)
      threshold_pos := by
        intro given inside
        have taken : (given.value term.sides : Int) ∈ term.burst := by
          rw [← threshold]
          exact Option.mem_map_of_mem _ inside
        have := wellFormed.threshold_pos _ taken
        change 1 ≤ given.value sides.value
        rw [sidesValue]
        omega
      bonus_signed := signed
      bonus_bound := fun given =>
        modified.trans (DiceTerm.hasModifier_iff.mpr (wellFormed.bonus_bound (bound given))) }
  exact
    ⟨written,
      { admissible
        count := countText
        sides := sidesText
        modifier := ⟨rfl, burstText, keepText⟩
        bonus := bonusText
        bare := by rw [same]; rfl
        isOpen := by rw [WrittenDice.isOpen, modified, free, DiceTerm.isOpen] }⟩

/-- The canonical text of well-formed dice is a way to write them. -/
theorem exists_dice {limits : Limits} {term : DiceTerm} (wellFormed : term.WellFormed limits) :
    ∃ written : WrittenDice, written.Admissible limits ∧ written.text = term.text ∧
      written.term.bare = term.bare ∧ written.isOpen = term.isOpen := by
  obtain ⟨written, copies⟩ := exists_copy wellFormed
  exact ⟨written, copies.admissible, copies.text, copies.bare, copies.isOpen⟩

/-- A way to write a term that keeps everything of it but its source. -/
structure Spells (limits : Limits) (written : WrittenTerm) (term : Term) : Prop where
  admissible : written.Admissible limits
  bare : written.term.bare = term.bare
  isOpen : written.isOpen = term.isOpen

theorem spells_dice {limits : Limits} {term : DiceTerm} {written : WrittenDice}
    (admissible : written.Admissible limits) (bare : written.term.bare = term.bare)
    (isOpen : written.isOpen = term.isOpen) (plus : Bool) :
    Spells limits (.dice plus written) (.dice term) :=
  ⟨admissible, congrArg Term.dice bare, isOpen⟩

theorem spells_flat {limits : Limits} {term : FlatTerm} {number : WrittenInteger}
    (value : number.value = term.value) : Spells limits (.flat number) (.flat term) :=
  ⟨trivial, congrArg (fun n => Term.flat ⟨n, []⟩) value, rfl⟩

namespace Spells

variable {limits : Limits} {written : WrittenTerm} {term : Term}

theorem shape (spells : Spells limits written term) : written.term.shape? = term.shape? := by
  rw [← Term.shape?_bare, spells.bare, Term.shape?_bare]

theorem constant (spells : Spells limits written term) :
    written.term.constant = term.constant := by
  rw [← Term.constant_bare, spells.bare, Term.constant_bare]

end Spells

theorem withoutBlanks_written (written : WrittenTerm) :
    Text.withoutBlanks written.text = written.text :=
  Text.withoutBlanks_of_marks written.marks

theorem exists_opening {limits : Limits} {term : Term} (wellFormed : term.WellFormed limits) :
    ∃ written : WrittenTerm, Spells limits written term ∧
      Text.withoutBlanks term.opening = written.text := by
  cases term with
  | dice term =>
    obtain ⟨written, admissible, text, bare, isOpen⟩ := exists_dice wellFormed
    refine ⟨.dice false written, spells_dice admissible bare isOpen false, ?_⟩
    rw [← withoutBlanks_written, Term.opening, ← text]
    rfl
  | flat term =>
    obtain ⟨number, text, value⟩ := exists_plain wellFormed
    refine ⟨.flat number, spells_flat value, ?_⟩
    rw [← withoutBlanks_written, Term.opening, ← text]
    rfl

/-- Later terms begin with a sign and a blank. -/
theorem exists_following {limits : Limits} {term : Term} (wellFormed : term.WellFormed limits) :
    ∃ written : WrittenTerm, Spells limits written term ∧ written.isSigned = true ∧
      Text.withoutBlanks (' ' :: term.following) = written.text := by
  cases term with
  | dice term =>
    obtain ⟨written, admissible, text, bare, isOpen⟩ := exists_dice wellFormed
    refine ⟨.dice true written, spells_dice admissible bare isOpen true, rfl, ?_⟩
    rw [← withoutBlanks_written, Term.following, ← text]
    rfl
  | flat term =>
    obtain ⟨number, signed, text, value⟩ := exists_signed wellFormed
    refine ⟨.flat number, spells_flat value, signed, ?_⟩
    rw [← withoutBlanks_written, Term.following, WrittenTerm.text, text, Numeral.signed]
    split <;> rfl

theorem exists_followings {limits : Limits} {terms : List Term}
    (wellFormed : ∀ term ∈ terms, term.WellFormed limits) :
    ∃ written : List WrittenTerm, List.Forall₂ (Spells limits) written terms ∧
      (∀ term ∈ written, term.isSigned = true) ∧
      Text.withoutBlanks (terms.flatMap fun term => ' ' :: term.following) = textOf written := by
  induction terms with
  | nil => exact ⟨[], .nil, List.forall_mem_nil _, rfl⟩
  | cons term rest ih =>
    obtain ⟨here, wellFormed⟩ := List.forall_mem_cons.mp wellFormed
    obtain ⟨first, spells, signed, text⟩ := exists_following here
    obtain ⟨others, spell, allSigned, texts⟩ := ih wellFormed
    refine ⟨first :: others, .cons spells spell, List.forall_mem_cons.mpr ⟨signed, allSigned⟩, ?_⟩
    rw [List.flatMap_cons, Text.withoutBlanks, List.filter_append]
    exact congrArg₂ _ text texts

/-- The formula of well-formed terms is text of the grammar. -/
theorem exists_spelling {limits : Limits} {terms : List Term}
    (wellFormed : ∀ term ∈ terms, term.WellFormed limits) :
    ∃ written : List WrittenTerm, List.Forall₂ (Spells limits) written terms ∧
      (∀ term ∈ written.tail, term.isSigned = true) ∧
      Text.withoutBlanks (formula terms) = textOf written := by
  cases terms with
  | nil => exact ⟨[], .nil, List.forall_mem_nil _, rfl⟩
  | cons term rest =>
    obtain ⟨here, wellFormed⟩ := List.forall_mem_cons.mp wellFormed
    obtain ⟨first, spells, text⟩ := exists_opening here
    obtain ⟨others, spell, signed, texts⟩ := exists_followings wellFormed
    refine ⟨first :: others, .cons spells spell, signed, ?_⟩
    rw [formula, Text.withoutBlanks, List.filter_append]
    exact congrArg₂ _ text texts

theorem spelled_forall₂ {limits : Limits} {written : List WrittenTerm} {terms : List Term}
    (spells : List.Forall₂ (Spells limits) written terms) :
    (∀ term ∈ written, term.Admissible limits) ∧
    (written.map WrittenTerm.term).filterMap Term.shape? = terms.filterMap Term.shape? ∧
    Numeral.sum ((written.map WrittenTerm.term).map Term.constant) =
      Numeral.sum (terms.map Term.constant) := by
  induction spells with
  | nil => exact ⟨List.forall_mem_nil _, rfl, rfl⟩
  | cons here _ ih =>
    obtain ⟨admissible, shapes, constants⟩ := ih
    refine ⟨List.forall_mem_cons.mpr ⟨here.admissible, admissible⟩, ?_, ?_⟩
    · simp only [List.map_cons, List.filterMap_cons, here.shape, shapes]
    · simp only [List.map_cons, Numeral.sum, here.constant, constants]

/-- The formula is written by the grammar, and so it parses to what is written. -/
theorem exists_reparse {limits : Limits} {raw : Text} {parsed : Parsed}
    (h : parse limits raw = .ok parsed) (found : parsed.terms ≠ []) :
    ∃ written : List WrittenTerm, List.Forall₂ (Spells limits) written parsed.terms ∧
      (∀ term ∈ written.tail, term.isSigned = true) ∧ written ≠ [] ∧
      parse limits parsed.formula = .ok ⟨textOf written, readings written, []⟩ := by
  obtain ⟨written, spells, signed, text⟩ := exists_spelling (wellFormed_of_parse h)
  have nonempty : written ≠ [] := by
    rintro rfl
    exact found (List.forall₂_nil_left_iff.mp spells)
  have spelled : (Text.withoutBlanks parsed.formula).map Char.toLower = textOf written := by
    rw [Parsed.formula, text, Text.map_toLower_of_marks (marks_textOf written)]
  exact ⟨written, spells, signed, nonempty,
    parse_textOf nonempty (spelled_forall₂ spells).1 signed spelled⟩

/-- The formula of an expression parses under the same limits and nothing of it is ignored: the
dice have the same shapes in the same order, and the constants have the same sum. -/
theorem exists_again {limits : Limits} {raw : Text} {parsed : Parsed}
    (h : parse limits raw = .ok parsed) (found : parsed.terms ≠ []) :
    ∃ again, parse limits parsed.formula = .ok again ∧ again.terms ≠ [] ∧ again.ignored = [] ∧
      again.diceTerms.map DiceTerm.shape = parsed.diceTerms.map DiceTerm.shape ∧
      again.constant = parsed.constant := by
  obtain ⟨written, spells, signed, nonempty, again⟩ := exists_reparse h found
  obtain ⟨_, shapes, constants⟩ := spelled_forall₂ spells
  refine ⟨_, again, readings_ne_nil nonempty, rfl, ?_, ?_⟩
  · rw [Parsed.shapes_eq, Parsed.shapes_eq, ← shapes, ← shapes_readings]
  · rw [Parsed.constant_eq, Parsed.constant_eq, ← constants, ← constants_readings]

/-- Expressions with the same shapes of dice and the same sum of constants are rolled alike. -/
theorem ofExpression_alike {σ : Type} [DrawSource σ] {limits : Limits} {raw text : Text}
    {one other : Parsed} (read : parse limits raw = .ok one) (filled : one.terms ≠ [])
    (reread : parse limits text = .ok other) (refilled : other.terms ≠ [])
    (shapes : one.diceTerms.map DiceTerm.shape = other.diceTerms.map DiceTerm.shape)
    (constants : one.constant = other.constant) :
    Rolling.Alike Roll.SameDice (Roll.ofExpression limits raw : Rolling σ Roll)
      (Roll.ofExpression limits text) := by
  rw [Roll.ofExpression_of_parse read filled, Roll.ofExpression_of_parse reread refilled]
  exact Roll.ofParsed_alike limits shapes constants (writable_of_parse read)
    (writable_of_parse reread)

end Notation

end Tabletop
