import Tabletop.Proofs.Grammar

/-!
# Reading written terms

How each kind of lexeme is read, and what the lexemes of written terms read as. A signed integer
after open dice is taken into them; everything else is read as it was written.
-/
namespace Tabletop.Notation

section Steps

variable {limits : Limits} {expression : Text} {rest : List Lexeme} {terms : List Term}
  {ignored dropped : List Text} {head : Head} {suffix : List Piece} {term : DiceTerm}
  {number : Whole} {value : Int}

theorem readTerms_whole (read : number.read = .ok value)
    (others : readTerms limits expression rest = .ok (terms, ignored)) :
    readTerms limits expression (.whole number :: rest) =
      .ok (.flat ⟨value, number.text⟩ :: terms, ignored) := by
  simp [readTerms, read, others, bind, Except.bind, pure, Except.pure]

/-- A signed integer right after dice with a modifier becomes their bonus. -/
theorem readTerms_bound (readHead : readDice limits expression head suffix = .ok (term, dropped))
    (read : number.read = .ok value)
    (others : readTerms limits expression rest = .ok (terms, ignored))
    (bound : (term.hasModifier && number.sign.isSome) = true) :
    readTerms limits expression (.dice head suffix :: .whole number :: rest) =
      .ok (.dice (term.withBonus value number.text) :: terms, dropped ++ ignored) := by
  simp only [readTerms, readHead, read, others, bind, Except.bind, pure, Except.pure, if_pos bound]

/-- Any other integer after dice is a flat term. -/
theorem readTerms_apart (readHead : readDice limits expression head suffix = .ok (term, dropped))
    (read : number.read = .ok value)
    (others : readTerms limits expression rest = .ok (terms, ignored))
    (apart : (term.hasModifier && number.sign.isSome) = false) :
    readTerms limits expression (.dice head suffix :: .whole number :: rest) =
      .ok (.dice term :: .flat ⟨value, number.text⟩ :: terms, dropped ++ ignored) := by
  simp only [readTerms, readHead, read, others, bind, Except.bind, pure, Except.pure, apart,
    Bool.false_eq_true, if_false]

/-- Dice that no integer follows. -/
theorem readTerms_dice (readHead : readDice limits expression head suffix = .ok (term, dropped))
    (others : readTerms limits expression rest = .ok (terms, ignored))
    (next : ∀ number tail, rest ≠ .whole number :: tail) :
    readTerms limits expression (.dice head suffix :: rest) =
      .ok (.dice term :: terms, dropped ++ ignored) := by
  rw [readTerms]
  · simp only [readHead, others, bind, Except.bind, pure, Except.pure]
  · exact next

end Steps

theorem readNumeral_run (run : DigitRun) : readNumeral run.text = .ok run.value := by
  rw [readNumeral, Numeral.read, if_neg (Nat.not_lt.mpr run.short)]
  rfl

/-- An amount that is left out is one. -/
theorem readAmount_textOf (run : Option DigitRun) :
    readAmount (DigitRun.textOf run) = .ok (run.elim 1 DigitRun.value) := by
  cases run with
  | none => rfl
  | some run =>
    have filled : run.text.isEmpty = false := by simp [run.nonempty]
    rw [DigitRun.textOf, readAmount, filled]
    exact readNumeral_run run

theorem WrittenInteger.atSign_of_signed {number : WrittenInteger}
    (signed : number.sign.isSome = true) (rest : Text) : AtSign (number.text ++ rest) := by
  obtain ⟨sign, given⟩ := Option.isSome_iff_exists.mp signed
  rw [text, given]
  cases sign
  · exact atSign_cons (Or.inl rfl)
  · exact atSign_cons (Or.inr rfl)

theorem read_whole (number : WrittenInteger) : number.whole.read = .ok number.value := by
  simp only [Whole.read, WrittenInteger.whole, readNumeral_run, bind, Except.bind, pure,
    Except.pure]
  rfl

namespace WrittenDice

variable {limits : Limits} {dice : WrittenDice}

def head (plus : Bool) (dice : WrittenDice) : Head :=
  ⟨if plus then some .plus else none, DigitRun.textOf dice.count, dice.sides.text⟩

def keepPieces (dice : WrittenDice) : List Piece :=
  dice.keep.elim [] fun keep => [.keep keep.kind (DigitRun.textOf keep.amount)]

def burstPieces (dice : WrittenDice) : List Piece :=
  dice.burst.elim [] fun burst => [.burst (burst.threshold.map DigitRun.text)]

def pieces (dice : WrittenDice) : List Piece :=
  if dice.keepFirst then dice.keepPieces ++ dice.burstPieces
  else dice.burstPieces ++ dice.keepPieces

/-- The pieces are the modifiers in the order in which they are written. -/
theorem text_pieces (dice : WrittenDice) :
    dice.pieces.flatMap Piece.text = dice.modifierText := by
  have keep : dice.keepPieces.flatMap Piece.text = dice.keepText := by
    rw [keepPieces, keepText]
    cases dice.keep <;> simp [Piece.text, WrittenKeep.text]
  have burst : dice.burstPieces.flatMap Piece.text = dice.burstText := by
    rw [burstPieces, burstText]
    cases dice.burst with
    | none => rfl
    | some burst => cases h : burst.threshold <;> simp [Piece.text, WrittenBurst.text, h]
  rw [pieces, modifierText]
  split <;> rw [List.flatMap_append, keep, burst]

theorem isModifier_of_mem_pieces (dice : WrittenDice) :
    ∀ piece ∈ dice.pieces, piece.IsModifier := by
  have keep : ∀ piece ∈ dice.keepPieces, piece.IsModifier := by
    rw [keepPieces]
    cases dice.keep with
    | none => exact List.forall_mem_nil _
    | some keep =>
      intro piece member
      cases List.mem_singleton.mp member
      exact DigitRun.digits_textOf
  have burst : ∀ piece ∈ dice.burstPieces, piece.IsModifier := by
    rw [burstPieces]
    cases dice.burst with
    | none => exact List.forall_mem_nil _
    | some burst =>
      intro piece member
      cases List.mem_singleton.mp member
      intro digits given
      obtain ⟨run, _, rfl⟩ := Option.map_eq_some_iff.mp given
      exact ⟨run.nonempty, run.digits⟩
  intro piece member
  have either : piece ∈ dice.keepPieces ∨ piece ∈ dice.burstPieces := by
    rw [pieces] at member
    split at member <;> simpa [or_comm] using member
  exact either.elim (keep piece) (burst piece)

/-- The dice without what is bound to them. -/
def stemTerm (dice : WrittenDice) : DiceTerm := { dice.term with bonus := 0, source := dice.stem }

/-- Count and sides are within the limits, so the head is not refused. -/
theorem read_head (plus : Bool) (expression : Text) (admissible : dice.Admissible limits) :
    (dice.head plus).read limits expression = .ok (dice.term.count, dice.term.sides) := by
  have notMinus : (dice.head plus).sign ≠ some .minus := by
    rw [head]
    split <;> simp
  have count : readAmount (dice.head plus).count = .ok dice.term.count :=
    readAmount_textOf dice.count
  have sides : readNumeral (dice.head plus).sides = .ok dice.term.sides :=
    readNumeral_run dice.sides
  simp only [Head.read, if_neg notMinus, count, sides, bind, Except.bind, pure, Except.pure,
    if_neg (Nat.not_lt.mpr admissible.count_pos), if_neg (Nat.not_lt.mpr admissible.sides_pos),
    if_neg (Int.not_lt.mpr admissible.count_le), if_neg (Int.not_lt.mpr admissible.sides_le)]

theorem readSuffix_keepPieces (admissible : dice.Admissible limits) (burst : Option Int)
    (rest : List Piece) : readSuffix dice.term.sides none burst (dice.keepPieces ++ rest) =
      readSuffix dice.term.sides dice.term.keep burst rest := by
  rw [keepPieces, term]
  cases h : dice.keep with
  | none => rfl
  | some keep =>
    have positive : 1 ≤ keep.amount.elim 1 DigitRun.value := admissible.amount_pos keep h
    simp [readSuffix, readAmount_textOf, positive, bind, Except.bind, WrittenKeep.rule]

theorem readSuffix_burstPieces (admissible : dice.Admissible limits) (keep : Option KeepRule)
    (rest : List Piece) : readSuffix dice.term.sides keep none (dice.burstPieces ++ rest) =
      readSuffix dice.term.sides keep dice.term.burst rest := by
  rw [burstPieces, term]
  cases h : dice.burst with
  | none => rfl
  | some burst =>
    have positive : 1 ≤ burst.value dice.sides.value := admissible.threshold_pos burst h
    cases hb : burst.threshold with
    | none =>
      have : 1 ≤ dice.sides.value := admissible.sides_pos
      simp [readSuffix, hb, this, bind, Except.bind, pure, Except.pure, WrittenBurst.value]
    | some run =>
      have : 1 ≤ run.value := by simpa [WrittenBurst.value, hb] using positive
      simp [readSuffix, hb, this, readNumeral_run, bind, Except.bind, WrittenBurst.value]

/-- No two pieces are of one sort, so each of them counts. -/
theorem readSuffix_pieces (admissible : dice.Admissible limits) :
    readSuffix dice.term.sides none none dice.pieces =
      .ok ⟨dice.term.keep, dice.term.burst, []⟩ := by
  rw [pieces]
  split
  · rw [readSuffix_keepPieces admissible, ← List.append_nil dice.burstPieces,
      readSuffix_burstPieces admissible, readSuffix]
  · rw [readSuffix_burstPieces admissible, ← List.append_nil dice.keepPieces,
      readSuffix_keepPieces admissible, readSuffix]

theorem readDice_written (plus : Bool) (expression : Text) (admissible : dice.Admissible limits) :
    readDice limits expression (dice.head plus) dice.pieces = .ok (dice.stemTerm, []) := by
  have source : (dice.head plus).unsigned ++ dice.pieces.flatMap Piece.text = dice.stem := by
    rw [text_pieces]
    rfl
  simp only [readDice, read_head plus expression admissible, readSuffix_pieces admissible, source,
    bind, Except.bind, pure, Except.pure]
  rfl

/-- What is bound completes the dice. -/
theorem withBonus_stemTerm {number : WrittenInteger} (bound : dice.bonus = some number) :
    dice.stemTerm.withBonus number.value number.text = dice.term := by
  simp [DiceTerm.withBonus, stemTerm, term, text, bonusText, bound]

theorem stemTerm_of_bonus_none (free : dice.bonus = none) : dice.stemTerm = dice.term := by
  simp [stemTerm, term, text, bonusText, free]

@[simp] theorem hasModifier_term (dice : WrittenDice) :
    dice.term.hasModifier = dice.hasModifier := by
  simp [DiceTerm.hasModifier, term, hasModifier]

theorem hasModifier_stemTerm (dice : WrittenDice) :
    dice.stemTerm.hasModifier = dice.hasModifier := hasModifier_term dice

end WrittenDice

namespace WrittenTerm

def lexemes : WrittenTerm → List Lexeme
  | .dice plus written =>
    .dice (written.head plus) written.pieces ::
      written.bonus.elim [] fun number => [.whole number.whole]
  | .flat number => [.whole number.whole]

theorem atSign_of_isSigned {term : WrittenTerm} (signed : term.isSigned = true) (rest : Text) :
    AtSign (term.text ++ rest) := by
  cases term with
  | dice plus written =>
    rw [show plus = true from signed]
    exact atSign_cons (Or.inl rfl)
  | flat number => exact WrittenInteger.atSign_of_signed signed rest

end WrittenTerm

/-- Before a sign an integer is cut off whole. -/
theorem lexemes_integer_append (number : WrittenInteger) {rest : Text} (atSign : AtSign rest) :
    lexemes (number.text ++ rest) = .whole number.whole :: lexemes rest := by
  have noHead : head? (number.whole.text ++ rest) = none :=
    head?_whole number.run.digits number.run.nonempty atSign
  have cut : whole? (number.whole.text ++ rest) = some (number.whole, rest) :=
    whole?_append number.run.digits number.run.nonempty atSign
  exact lexemes_of_whole? noHead cut

/-- Before a sign dice are cut off with all of their modifiers. -/
theorem lexemes_stem_append (plus : Bool) (dice : WrittenDice) {rest : Text}
    (atSign : AtSign rest) : lexemes ((if plus then ['+'] else []) ++ dice.stem ++ rest) =
      .dice (dice.head plus) dice.pieces :: lexemes rest := by
  have shape : (if plus then ['+'] else []) ++ dice.stem ++ rest =
      (dice.head plus).text ++ (dice.pieces.flatMap Piece.text ++ rest) := by
    rw [dice.text_pieces]
    cases plus <;>
      simp [Head.text, Head.unsigned, WrittenDice.head, WrittenDice.stem, signText, Sign.char]
  have closed := closed_modifiers dice.isModifier_of_mem_pieces atSign.closed
  have cut : head? ((dice.head plus).text ++ (dice.pieces.flatMap Piece.text ++ rest)) =
      some (dice.head plus, dice.pieces.flatMap Piece.text ++ rest) :=
    head?_append DigitRun.digits_textOf dice.sides.digits dice.sides.nonempty closed.endsRun
  rw [shape, lexemes_of_head? cut, pieces_append dice.isModifier_of_mem_pieces atSign]

/-- One written term is cut off the text, with what it binds as a lexeme of its own. -/
theorem lexemes_term_append {limits : Limits} {term : WrittenTerm}
    (admissible : term.Admissible limits) {rest : Text} (atSign : AtSign rest) :
    lexemes (term.text ++ rest) = term.lexemes ++ lexemes rest := by
  cases term with
  | flat number => exact lexemes_integer_append number atSign
  | dice plus written =>
    rw [WrittenTerm.text, WrittenDice.text, WrittenDice.bonusText, WrittenTerm.lexemes]
    cases bonus : written.bonus with
    | none => simpa using lexemes_stem_append plus written atSign
    | some number =>
      have signed := WrittenInteger.atSign_of_signed (admissible.bonus_signed number bonus) rest
      have cut := lexemes_stem_append plus written signed
      rw [lexemes_integer_append number atSign] at cut
      simpa [List.append_assoc] using cut

/-- Written terms are cut where they were put together, if all but the first begin with a sign. -/
theorem lexemes_textOf {limits : Limits} {terms : List WrittenTerm}
    (admissible : ∀ term ∈ terms, term.Admissible limits)
    (signed : ∀ term ∈ terms.tail, term.isSigned = true) :
    lexemes (textOf terms) = terms.flatMap WrittenTerm.lexemes := by
  induction terms with
  | nil => exact lexemes_nil
  | cons term rest ih =>
    have atSign : AtSign (textOf rest) := by
      cases rest with
      | nil => exact atSign_nil
      | cons next rest => exact WrittenTerm.atSign_of_isSigned (signed next List.mem_cons_self) _
    rw [textOf, List.flatMap_cons, List.flatMap_cons]
    refine (lexemes_term_append (admissible term List.mem_cons_self) atSign).trans ?_
    rw [ih (fun other member => admissible other (List.mem_cons_of_mem term member))
      fun other member => signed other (List.mem_of_mem_tail member)]

/-- What written terms read as when they stand one after the other. -/
def readings : List WrittenTerm → List Term
  | [] => []
  | .dice plus written :: .flat number :: rest =>
    if written.isOpen && number.sign.isSome then
      .dice (written.term.withBonus number.value number.text) :: readings rest
    else (WrittenTerm.dice plus written).term :: (WrittenTerm.flat number).term :: readings rest
  | term :: rest => term.term :: readings rest

section Written

variable {limits : Limits} {expression : Text} {rest : List Lexeme} {terms : List Term}
  {ignored : List Text} {plus : Bool} {written : WrittenDice} {number : WrittenInteger}

/-- Dice are read as written unless an integer follows that they could bind. -/
theorem readTerms_dice_lexemes (admissible : written.Admissible limits)
    (others : readTerms limits expression rest = .ok (terms, ignored))
    (next : written.bonus = none → ∀ number tail, rest ≠ .whole number :: tail) :
    readTerms limits expression ((WrittenTerm.dice plus written).lexemes ++ rest) =
      .ok (.dice written.term :: terms, ignored) := by
  have readHead := written.readDice_written plus expression admissible
  rw [WrittenTerm.lexemes]
  cases bonus : written.bonus with
  | none =>
    rw [written.stemTerm_of_bonus_none bonus] at readHead
    exact readTerms_dice readHead others (next bonus)
  | some number =>
    have bound : (written.stemTerm.hasModifier && number.whole.sign.isSome) = true := by
      rw [written.hasModifier_stemTerm, admissible.bonus_bound (by rw [bonus]; rfl)]
      exact admissible.bonus_signed number bonus
    have read := readTerms_bound readHead (read_whole number) others bound
    rw [WrittenInteger.text_whole, written.withBonus_stemTerm bonus] at read
    exact read

/-- Open dice take the signed integer after them in. -/
theorem readTerms_open_flat (admissible : written.Admissible limits)
    (others : readTerms limits expression rest = .ok (terms, ignored))
    (bound : (written.isOpen && number.sign.isSome) = true) :
    readTerms limits expression ((WrittenTerm.dice plus written).lexemes ++
      ((WrittenTerm.flat number).lexemes ++ rest)) =
      .ok (.dice (written.term.withBonus number.value number.text) :: terms, ignored) := by
  rw [WrittenDice.isOpen, Bool.and_eq_true, Bool.and_eq_true, Option.isNone_iff_eq_none] at bound
  obtain ⟨⟨modified, bonus⟩, signed⟩ := bound
  have readHead := written.readDice_written plus expression admissible
  have taken : (written.stemTerm.hasModifier && number.whole.sign.isSome) = true := by
    rw [written.hasModifier_stemTerm, modified]
    exact signed
  have read := readTerms_bound readHead (read_whole number) others taken
  rw [written.stemTerm_of_bonus_none bonus] at read
  rw [WrittenTerm.lexemes, bonus]
  exact read

/-- The integer after closed dice, or one without a sign, is left as it is. -/
theorem readTerms_closed_flat (admissible : written.Admissible limits)
    (others : readTerms limits expression rest = .ok (terms, ignored))
    (apart : (written.isOpen && number.sign.isSome) = false) :
    readTerms limits expression ((WrittenTerm.dice plus written).lexemes ++
      ((WrittenTerm.flat number).lexemes ++ rest)) =
      .ok (.dice written.term :: (WrittenTerm.flat number).term :: terms, ignored) := by
  have flat : readTerms limits expression ((WrittenTerm.flat number).lexemes ++ rest) =
      .ok ((WrittenTerm.flat number).term :: terms, ignored) :=
    readTerms_whole (read_whole number) others
  cases bonus : written.bonus with
  | some bound =>
    exact readTerms_dice_lexemes admissible flat fun free => by simp [bonus] at free
  | none =>
    have untaken : (written.stemTerm.hasModifier && number.whole.sign.isSome) = false := by
      rw [written.hasModifier_stemTerm]
      simpa [WrittenDice.isOpen, bonus] using apart
    have readHead := written.readDice_written plus expression admissible
    rw [written.stemTerm_of_bonus_none bonus] at readHead
    have read := readTerms_apart readHead (read_whole number) others
      (by rwa [written.stemTerm_of_bonus_none bonus] at untaken)
    rw [WrittenTerm.lexemes, bonus]
    exact read

end Written

/-- The lexemes of admissible terms are read without loss. -/
theorem readTerms_lexemes {limits : Limits} (expression : Text) {terms : List WrittenTerm}
    (admissible : ∀ term ∈ terms, term.Admissible limits) :
    readTerms limits expression (terms.flatMap WrittenTerm.lexemes) = .ok (readings terms, []) := by
  fun_induction readings terms with
  | case1 => rfl
  | case2 plus written number rest bound ih =>
    have others := ih fun term member => admissible term (by simp [member])
    have dice : written.Admissible limits := admissible (.dice plus written) (by simp)
    simp only [List.flatMap_cons]
    exact readTerms_open_flat dice others bound
  | case3 plus written number rest apart ih =>
    have others := ih fun term member => admissible term (by simp [member])
    have dice : written.Admissible limits := admissible (.dice plus written) (by simp)
    simp only [List.flatMap_cons]
    exact readTerms_closed_flat dice others (by simpa using apart)
  | case4 term rest noFlat ih =>
    have others := ih fun term member => admissible term (by simp [member])
    rw [List.flatMap_cons]
    cases term with
    | flat number => exact readTerms_whole (read_whole number) others
    | dice plus written =>
      have dice : written.Admissible limits := admissible (.dice plus written) (by simp)
      refine readTerms_dice_lexemes dice others fun _ number tail same => ?_
      cases rest with
      | nil => simp at same
      | cons next rest =>
        cases next with
        | dice plus written => simp [WrittenTerm.lexemes] at same
        | flat number => exact noFlat plus written number rest rfl rfl

end Tabletop.Notation
