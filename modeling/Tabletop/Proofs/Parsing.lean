import Tabletop.Proofs.Reading

/-!
# Parsing written terms

Parsing takes text that was written by the grammar back to the terms it was written for. The
blanks and capitals of the raw text make no difference, and nothing is ignored.
-/
namespace Tabletop.Notation

theorem isMark_of_isDigit {c : Char} (h : Text.isDigit c = true) : Text.isMark c = true := by
  rw [Text.isMark, h]
  rfl

theorem isMark_of_mem_digits {n : Nat} {c : Char} (member : c ∈ Numeral.digits n) :
    Text.isMark c = true :=
  isMark_of_isDigit (Numeral.isDigit_of_mem_digits member)

theorem DigitRun.marks (run : DigitRun) : ∀ c ∈ run.text, Text.isMark c = true := fun c member =>
  isMark_of_isDigit (run.digits c member)

theorem DigitRun.marks_textOf (run : Option DigitRun) :
    ∀ c ∈ DigitRun.textOf run, Text.isMark c = true := fun c member =>
  isMark_of_isDigit (DigitRun.digits_textOf c member)

theorem WrittenInteger.marks (number : WrittenInteger) :
    ∀ c ∈ number.text, Text.isMark c = true := by
  intro c member
  rcases List.mem_append.mp member with sign | digit
  · cases h : number.sign with
    | none => simp [h, signText] at sign
    | some kind =>
      rw [h, signText, List.mem_singleton] at sign
      cases kind <;> rw [sign] <;> decide
  · exact number.run.marks c digit

theorem WrittenDice.marks_keepText (dice : WrittenDice) :
    ∀ c ∈ dice.keepText, Text.isMark c = true := by
  rw [keepText]
  cases dice.keep with
  | none => exact List.forall_mem_nil _
  | some keep =>
    intro c member
    rcases List.mem_append.mp member with code | digit
    · have letters : ∀ c ∈ keep.kind.code, Text.isMark c = true := by
        cases keep.kind <;> exact List.all_eq_true.mp (by decide)
      exact letters c code
    · exact DigitRun.marks_textOf keep.amount c digit

theorem WrittenDice.marks_burstText (dice : WrittenDice) :
    ∀ c ∈ dice.burstText, Text.isMark c = true := by
  rw [burstText]
  cases dice.burst with
  | none => exact List.forall_mem_nil _
  | some burst =>
    have letter : Text.isMark 'x' = true ∧ Text.isMark '>' = true := by decide
    cases h : burst.threshold with
    | none => simp [WrittenBurst.text, h, letter]
    | some run => simpa [WrittenBurst.text, h, letter] using run.marks

theorem WrittenDice.marks (dice : WrittenDice) : ∀ c ∈ dice.text, Text.isMark c = true := by
  have letter : Text.isMark 'd' = true := by decide
  have bonus : ∀ c ∈ dice.bonusText, Text.isMark c = true := by
    rw [bonusText]
    cases dice.bonus with
    | none => exact List.forall_mem_nil _
    | some number => exact number.marks
  have modifier : ∀ c ∈ dice.modifierText, Text.isMark c = true := by
    intro c member
    have either : c ∈ dice.keepText ∨ c ∈ dice.burstText := by
      rw [modifierText] at member
      split at member <;> simpa [or_comm] using member
    exact either.elim (dice.marks_keepText c) (dice.marks_burstText c)
  simp only [text, stem, List.forall_mem_append, List.forall_mem_cons]
  exact ⟨⟨⟨DigitRun.marks_textOf dice.count, letter, dice.sides.marks⟩, modifier⟩, bonus⟩

theorem WrittenTerm.marks (term : WrittenTerm) : ∀ c ∈ term.text, Text.isMark c = true := by
  cases term with
  | flat number => exact number.marks
  | dice plus written =>
    intro c member
    rcases List.mem_append.mp member with sign | inside
    · cases plus with
      | false => simp at sign
      | true =>
        rw [if_pos rfl, List.mem_singleton] at sign
        rw [sign]
        decide
    · exact written.marks c inside

theorem marks_textOf (terms : List WrittenTerm) : ∀ c ∈ textOf terms, Text.isMark c = true := by
  intro c member
  obtain ⟨term, _, inside⟩ := List.mem_flatMap.mp member
  exact term.marks c inside

theorem readings_ne_nil {terms : List WrittenTerm} (nonempty : terms ≠ []) :
    readings terms ≠ [] := by
  fun_cases readings terms <;> simp_all

/-- Text written by the grammar parses to what its terms read as. -/
theorem parse_textOf {limits : Limits} {terms : List WrittenTerm} {raw : Text}
    (nonempty : terms ≠ []) (admissible : ∀ term ∈ terms, term.Admissible limits)
    (signed : ∀ term ∈ terms.tail, term.isSigned = true)
    (spelled : (Text.withoutBlanks raw).map Char.toLower = textOf terms) :
    parse limits raw = .ok ⟨textOf terms, readings terms, []⟩ := by
  have read := readTerms_lexemes (textOf terms) admissible
  rw [← lexemes_textOf admissible signed] at read
  have scanned : scan limits (textOf terms) = .ok ⟨textOf terms, readings terms, []⟩ := by
    simp only [scan, read, bind, Except.bind, pure, Except.pure]
  have found : (readings terms).isEmpty = false := by simp [readings_ne_nil nonempty]
  simp [parse, normalize_of_marks (marks_textOf terms) spelled, scanned, found, bind, Except.bind,
    pure, Except.pure]

theorem isSigned_of_isChain {terms : List WrittenTerm}
    (chain : terms.IsChain WrittenTerm.MayFollow) : ∀ term ∈ terms.tail, term.isSigned = true := by
  induction terms with
  | nil => exact List.forall_mem_nil _
  | cons first rest ih =>
    rw [List.isChain_cons] at chain
    intro term member
    cases rest with
    | nil => exact nomatch member
    | cons second rest =>
      rcases List.mem_cons.mp member with rfl | member
      · exact (chain.1 term rfl).1
      · exact ih chain.2 term member

/-- Where no flat term stands after open dice, every term is read as it was written. -/
theorem readings_of_isChain {terms : List WrittenTerm}
    (chain : terms.IsChain WrittenTerm.MayFollow) :
    readings terms = terms.map WrittenTerm.term := by
  fun_induction readings terms with
  | case1 => rfl
  | case2 plus written number rest bound ih =>
    rw [List.isChain_cons_cons] at chain
    rw [Bool.and_eq_true] at bound
    exact absurd ⟨bound.1, rfl⟩ chain.1.2
  | case3 plus written number rest apart ih =>
    rw [List.isChain_cons_cons] at chain
    rw [ih chain.2.tail]
    rfl
  | case4 term rest noFlat ih =>
    rw [ih chain.tail]
    rfl

/-- The grammar is accepted with its documented meaning. Each written term stands for one way to
write it: with which leading zeros, in which order its modifiers, with which optional parts. -/
theorem parse_written {limits : Limits} {terms : List WrittenTerm} {raw : Text}
    (nonempty : terms ≠ []) (admissible : ∀ term ∈ terms, term.Admissible limits)
    (chain : terms.IsChain WrittenTerm.MayFollow)
    (spelled : (Text.withoutBlanks raw).map Char.toLower = textOf terms) :
    parse limits raw = .ok
      { expression := textOf terms, terms := terms.map WrittenTerm.term, ignored := [] } := by
  rw [← readings_of_isChain chain]
  exact parse_textOf nonempty admissible (isSigned_of_isChain chain) spelled

/-- Four dice with leading zeros, both modifiers and a bound integer, a flat integer, one die. -/
def sampleTerms : List WrittenTerm :=
  [.dice false
    { count := some ⟨['0', '0', '4'], by decide, List.all_eq_true.mp (by decide), by decide⟩
      sides := ⟨['6'], by decide, List.all_eq_true.mp (by decide), by decide⟩
      keep := some ⟨.dropLowest, none⟩
      burst := some ⟨some ⟨['5'], by decide, List.all_eq_true.mp (by decide), by decide⟩⟩
      keepFirst := false
      bonus := some ⟨some .plus, ⟨['2'], by decide, List.all_eq_true.mp (by decide), by decide⟩⟩ },
   .flat ⟨some .minus, ⟨['0', '7'], by decide, List.all_eq_true.mp (by decide), by decide⟩⟩,
   .dice true
    { count := none
      sides := ⟨['8'], by decide, List.all_eq_true.mp (by decide), by decide⟩
      keep := none
      burst := none
      keepFirst := false
      bonus := none }]

theorem parse_written_sampleTerms :
    parse ⟨100, 1000, 50⟩ " 004D6 x>5\tDl + 2 - 07+ d8 ".toList = .ok
      { expression := "004d6x>5dl+2-07+d8".toList
        terms := [.dice ⟨4, 6, some ⟨.dropLowest, 1⟩, some 5, 2, "004d6x>5dl+2".toList⟩,
          .flat ⟨-7, "-07".toList⟩, .dice ⟨1, 8, none, none, 0, "d8".toList⟩]
        ignored := [] } := by
  have admissible : ∀ term ∈ sampleTerms, term.Admissible ⟨100, 1000, 50⟩ := by
    simp only [sampleTerms, List.forall_mem_cons]
    refine ⟨?_, trivial, ?_, List.forall_mem_nil _⟩ <;> constructor <;> decide
  have parsed : parse ⟨100, 1000, 50⟩ " 004D6 x>5\tDl + 2 - 07+ d8 ".toList =
      .ok ⟨textOf sampleTerms, sampleTerms.map WrittenTerm.term, []⟩ :=
    parse_written (by decide) admissible (by decide) (by decide)
  rw [parsed]
  exact congrArg Except.ok (by decide)

end Tabletop.Notation
