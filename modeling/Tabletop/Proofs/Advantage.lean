import Tabletop.Proofs.Limits
import Tabletop.Proofs.Wording

/-!
# Formulas rolled with an edge

With an edge the first lone twenty-sided die of a formula becomes two, of which one is kept, and
nothing else of the formula changes but for the place of a constant: an integer after the die may
become the bonus of the two.
-/
namespace Tabletop

/-- Which of the two dice an edge keeps. -/
def Edge.keep? : Edge → Option KeepKind
  | .none => Option.none
  | .advantage => some .keepHighest
  | .disadvantage => some .keepLowest

/-- Two twenty-sided dice, of which one is kept. -/
def KeepKind.pair (kind : KeepKind) : Text := ['2', 'd', '2', '0'] ++ kind.code ++ ['1']

/-- Without an edge nothing is replaced, and with one the pair stands in place of a lone die. -/
theorem Command.paired_eq (edge : Edge) (text : Text) : paired edge text =
    match edge.keep? with
    | none => text
    | some kind => pairedFrom kind.pair none text := by
  cases edge <;> rfl

/-- The first lone die becomes two, of which one is kept, and keeps its burst. All other dice stay
as they are. -/
inductive Doubles (kind : KeepKind) : List DiceTerm → List DiceTerm → Prop
  | same {terms : List DiceTerm} (apart : ∀ term ∈ terms, term.isLone = false) :
    Doubles kind terms terms
  | first {front rest : List DiceTerm} {die dice : DiceTerm}
    (apart : ∀ term ∈ front, term.isLone = false) (lone : die.isLone = true)
    (shape : dice.shape = (2, 20, some ⟨kind, 1⟩, die.burst)) :
    Doubles kind (front ++ die :: rest) (front ++ dice :: rest)

theorem Doubles.cons {kind : KeepKind} {terms others : List DiceTerm} {term : DiceTerm}
    (apart : term.isLone = false) (doubles : Doubles kind terms others) :
    Doubles kind (term :: terms) (term :: others) := by
  cases doubles with
  | same others => exact .same (List.forall_mem_cons.mpr ⟨apart, others⟩)
  | @first front _ _ _ others lone shape =>
    have before : ∀ other ∈ term :: front, other.isLone = false :=
      List.forall_mem_cons.mpr ⟨apart, others⟩
    exact .first before lone shape

theorem DiceTerm.isLone_bare (term : DiceTerm) : term.bare.isLone = term.isLone := rfl

namespace Notation

open Command (loneDie? loneDieOf? rewritten)

namespace DigitRun

def one : DigitRun := .ofNat 1 (Numeral.fits_small (n := 1) (by decide))

def two : DigitRun := .ofNat 2 (Numeral.fits_small (n := 2) (by decide))

end DigitRun

/-- Two dice in place of one, of which one is kept. -/
def WrittenDice.twin (kind : KeepKind) (dice : WrittenDice) : WrittenDice :=
  { dice with
    count := some DigitRun.two
    keep := some ⟨kind, some DigitRun.one⟩
    keepFirst := true }

namespace WrittenDice

variable {limits : Limits} {dice : WrittenDice} (kind : KeepKind)

theorem shape_twin : (dice.twin kind).term.shape =
    (2, dice.term.sides, some ⟨kind, 1⟩, dice.term.burst) := rfl

theorem text_twin : (dice.twin kind).text =
    ['2', 'd'] ++ dice.sides.text ++ kind.code ++ ['1'] ++ dice.burstText ++ dice.bonusText := by
  have two : DigitRun.two.text = ['2'] := by decide
  have one : DigitRun.one.text = ['1'] := by decide
  simp [text, stem, modifierText, twin, keepText, WrittenKeep.text, DigitRun.textOf, two, one,
    burstText, bonusText]

theorem admissible_twin (admissible : dice.Admissible limits) (two : 2 ≤ limits.dice) :
    (dice.twin kind).Admissible limits where
  count_pos := (by decide : 1 ≤ 2)
  count_le := two
  sides_pos := admissible.sides_pos
  sides_le := admissible.sides_le
  amount_pos := by
    intro keep given
    cases given
    exact Nat.le_refl 1
  threshold_pos := admissible.threshold_pos
  bonus_signed := admissible.bonus_signed
  bonus_bound := fun _ => rfl

end WrittenDice

namespace WrittenTerm

def isLone : WrittenTerm → Bool
  | .dice _ written => written.term.isLone
  | .flat _ => false

def twin (kind : KeepKind) : WrittenTerm → WrittenTerm
  | .dice plus written => .dice plus (written.twin kind)
  | .flat number => .flat number

end WrittenTerm

/-- The terms with two dice in place of the first lone one. -/
def doubled (kind : KeepKind) : List WrittenTerm → List WrittenTerm
  | [] => []
  | term :: rest => if term.isLone then term.twin kind :: rest else term :: doubled kind rest

/-- The words are a way to write the term. Their lone die is the term, if that is one, and with two
dice in its place they are a way to write the two. -/
structure Wording (limits : Limits) (kind : KeepKind) (words : List Text) (written : WrittenTerm)
    (term : Term) : Prop where
  spells : Spells limits written term
  text : words.flatten = written.text
  apart : written.isLone = false → loneDieOf? words = none
  found : written.isLone = true → ∃ parts, loneDieOf? words = some parts ∧
    rewritten kind.pair words = (written.twin kind).text

namespace Wording

variable {limits : Limits} {kind : KeepKind}

/-- An integer has no `d` in it. -/
theorem flat {words : List Text} {number : WrittenInteger} {term : FlatTerm}
    (value : number.value = term.value) (text : words.flatten = number.text)
    (absent : ∀ word ∈ words, 'd' ∉ word) :
    Wording limits kind words (.flat number) (.flat term) where
  spells := spells_flat value
  text := text
  apart := fun _ => Command.loneDieOf?_of_not_mem absent
  found := fun lone => nomatch lone

theorem dice {written : WrittenDice} {term : DiceTerm} (copies : Copies limits written term)
    (clear : term.count = 1 → term.sides = 20 → term.burst = none ∨ term.keep = none) :
    Wording limits kind [term.text] (.dice false written) (.dice term) := by
  have lone : written.term.isLone = term.isLone := by
    rw [← DiceTerm.isLone_bare, copies.bare, DiceTerm.isLone_bare]
  have search := DiceTerm.loneDie?_text clear
  exact
    { spells := spells_dice copies.admissible copies.bare copies.isOpen false
      text := by
        rw [List.flatten_singleton, ← copies.text]
        rfl
      apart := by
        intro apart
        rw [WrittenTerm.isLone, lone] at apart
        rw [Command.loneDieOf?_singleton, search, apart]
        rfl
      found := by
        intro found
        rw [WrittenTerm.isLone, lone] at found
        obtain ⟨_, sides, keep⟩ := DiceTerm.isLone_iff.mp found
        have keepText : term.keepText = [] := by rw [DiceTerm.keepText, keep]
        have twenty : Numeral.digits 20 = ['2', '0'] := by decide
        obtain ⟨_, burst, _⟩ := copies.modifier
        rw [found, if_pos rfl] at search
        refine ⟨_, (Command.loneDieOf?_singleton _).trans search, ?_⟩
        rw [rewritten, Command.loneDieOf?_singleton, search, Command.replaced]
        simp [WrittenTerm.twin, WrittenTerm.text, WrittenDice.text_twin, copies.sides, sides,
          twenty, burst, copies.bonus, DiceTerm.modifierText, keepText, KeepKind.pair] }

/-- A sign in front is a word of its own. -/
theorem signed {written : WrittenDice} {term : DiceTerm}
    (wording : Wording limits kind [term.text] (.dice false written) (.dice term)) :
    Wording limits kind [['+'], term.text] (.dice true written) (.dice term) := by
  have plus : loneDieOf? [['+']] = none := by decide
  have glued : [['+'], term.text] = [['+']] ++ [term.text] := rfl
  exact
    { spells := ⟨wording.spells.admissible, wording.spells.bare, wording.spells.isOpen⟩
      text := congrArg ('+' :: ·) wording.text
      apart := by
        intro apart
        rw [glued, Command.loneDieOf?_append, plus, wording.apart apart]
        rfl
      found := by
        intro found
        obtain ⟨parts, search, text⟩ := wording.found found
        refine ⟨('+' :: parts.1, parts.2), ?_, ?_⟩
        · rw [glued, Command.loneDieOf?_append, plus, search]
          rfl
        · rw [glued, Command.rewritten_append_of_none plus, text]
          rfl }

/-- Words of one term before words of others. -/
theorem cons {words rest : List Text} {written : WrittenTerm} {term : Term}
    {others : List WrittenTerm} (wording : Wording limits kind words written term)
    (texts : rest.flatten = textOf others)
    (changed : rewritten kind.pair rest = textOf (doubled kind others)) :
    (words ++ rest).flatten = textOf (written :: others) ∧
      rewritten kind.pair (words ++ rest) = textOf (doubled kind (written :: others)) := by
  refine ⟨?_, ?_⟩
  · rw [List.flatten_append, wording.text, texts]
    rfl
  · rw [doubled]
    split
    next lone =>
      obtain ⟨parts, search, text⟩ := wording.found lone
      rw [Command.rewritten_append_of_some search, text, texts]
      rfl
    next apart =>
      have none := wording.apart (Bool.eq_false_iff.mpr apart)
      rw [Command.rewritten_append_of_none none, wording.text, changed]
      rfl

end Wording

/-- One twenty-sided die that bursts has no keep rule. -/
def Clear (term : Term) : Prop := ∀ die ∈ term.dice?, die.count = 1 → die.sides = 20 →
  die.burst = none ∨ die.keep = none

section Words

variable {limits : Limits} (kind : KeepKind) {term : Term} {terms : List Term}

theorem exists_wording_opening (wellFormed : term.WellFormed limits) (clear : Clear term) :
    ∃ written, Wording limits kind [term.opening] written term := by
  cases term with
  | dice term =>
    obtain ⟨written, copies⟩ := exists_copy wellFormed
    exact ⟨_, Wording.dice copies (clear term rfl)⟩
  | flat term =>
    obtain ⟨number, text, value⟩ := exists_plain wellFormed
    refine ⟨_, Wording.flat value ?_ (List.forall_mem_singleton.mpr ?_)⟩
    · rw [List.flatten_singleton, text]
      rfl
    · exact Numeral.not_mem_written _

theorem exists_wording_following (wellFormed : term.WellFormed limits) (clear : Clear term) :
    ∃ written, written.isSigned = true ∧
      Wording limits kind [[term.sign], term.body] written term := by
  cases term with
  | dice term =>
    obtain ⟨written, copies⟩ := exists_copy wellFormed
    exact ⟨.dice true written, rfl, (Wording.dice copies (clear term rfl)).signed⟩
  | flat term =>
    obtain ⟨number, signed, text, value⟩ := exists_signed wellFormed
    refine ⟨.flat number, signed, Wording.flat value ?_ ?_⟩
    · rw [text, Numeral.signed]
      simp [Term.sign, Term.body]
    · refine List.forall_mem_cons.mpr ⟨?_, List.forall_mem_singleton.mpr ?_⟩
      · rw [Term.sign]
        split <;> decide
      · exact Numeral.not_mem_digits _

/-- Words of several terms: the first lone term among them is the one that is found. -/
theorem exists_followingWords (wellFormed : ∀ term ∈ terms, term.WellFormed limits)
    (clear : ∀ term ∈ terms, Clear term) :
    ∃ written, List.Forall₂ (Spells limits) written terms ∧
      (∀ term ∈ written, term.isSigned = true) ∧
      (followingWords terms).flatten = textOf written ∧
      rewritten kind.pair (followingWords terms) = textOf (doubled kind written) := by
  induction terms with
  | nil => exact ⟨[], .nil, List.forall_mem_nil _, rfl, rfl⟩
  | cons term terms ih =>
    obtain ⟨here, wellFormed⟩ := List.forall_mem_cons.mp wellFormed
    obtain ⟨clearHere, clear⟩ := List.forall_mem_cons.mp clear
    obtain ⟨first, signed, wording⟩ := exists_wording_following kind here clearHere
    obtain ⟨others, spells, allSigned, texts, changed⟩ := ih wellFormed clear
    obtain ⟨text, doubled⟩ := wording.cons texts changed
    exact ⟨first :: others, .cons wording.spells spells,
      List.forall_mem_cons.mpr ⟨signed, allSigned⟩, text, doubled⟩

/-- The words of a formula are words of the grammar, before and after the change. -/
theorem exists_formulaWords (found : terms ≠ [])
    (wellFormed : ∀ term ∈ terms, term.WellFormed limits) (clear : ∀ term ∈ terms, Clear term) :
    ∃ written, List.Forall₂ (Spells limits) written terms ∧
      (∀ term ∈ written.tail, term.isSigned = true) ∧ written ≠ [] ∧
      (formulaWords terms).flatten = textOf written ∧
      rewritten kind.pair (formulaWords terms) = textOf (doubled kind written) := by
  obtain ⟨term, rest, rfl⟩ := List.exists_cons_of_ne_nil found
  obtain ⟨here, wellFormed⟩ := List.forall_mem_cons.mp wellFormed
  obtain ⟨clearHere, clear⟩ := List.forall_mem_cons.mp clear
  obtain ⟨first, wording⟩ := exists_wording_opening kind here clearHere
  obtain ⟨others, spells, signed, texts, changed⟩ := exists_followingWords kind wellFormed clear
  obtain ⟨text, doubled⟩ := wording.cons texts changed
  exact ⟨first :: others, .cons wording.spells spells, signed, List.cons_ne_nil _ _, text, doubled⟩

end Words

section Limits

variable {limits wide : Limits}

/-- The terms of an expression are within limits that admit its formula. -/
theorem wellFormed_of_admitted {raw : Text} {parsed again : Parsed}
    (read : parse wide raw = .ok parsed) (found : parsed.terms ≠ [])
    (admitted : parse limits parsed.formula = .ok again) :
    ∀ term ∈ parsed.terms, term.WellFormed limits := by
  obtain ⟨written, spells, _, _, reread⟩ := exists_reparse read found
  cases parse_unique admitted reread
  -- The formula is read with the shapes of the terms, and these are within the limits.
  have shapes : (readings written).filterMap Term.shape? = parsed.terms.filterMap Term.shape? :=
    (shapes_readings written).trans (spelled_forall₂ spells).2.1
  intro term member
  have sound := wellFormed_of_parse read term member
  cases term with
  | flat term => exact sound
  | dice term =>
    have shape : term.shape ∈ (readings written).filterMap Term.shape? := by
      rw [shapes]
      exact List.mem_filterMap.mpr ⟨.dice term, member, rfl⟩
    obtain ⟨other, inside, same⟩ := List.mem_filterMap.mp shape
    cases other with
    | flat other => exact nomatch same
    | dice die =>
      obtain ⟨count, sides, _⟩ := DiceTerm.shape_iff.mp (Option.some.inj same)
      have within : die.WellFormed limits := wellFormed_of_parse admitted (.dice die) inside
      exact { sound with
        count_le := count ▸ within.count_le
        sides_le := sides ▸ within.sides_le }

end Limits

section Readings

variable {kind : KeepKind}

/-- What the dice read as before the other terms, an integer right after them included. -/
def boundTerm (written : WrittenDice) : List WrittenTerm → DiceTerm
  | .flat number :: _ =>
    if written.isOpen && number.sign.isSome then
      written.term.withBonus number.value number.text
    else written.term
  | _ => written.term

theorem shape_boundTerm (written : WrittenDice) (rest : List WrittenTerm) :
    (boundTerm written rest).shape = written.term.shape := by
  unfold boundTerm
  split
  · split <;> rfl
  · rfl

theorem diceTerms_dice (plus : Bool) (written : WrittenDice) (rest : List WrittenTerm) :
    (readings (.dice plus written :: rest)).filterMap Term.dice? =
      boundTerm written rest :: (readings rest).filterMap Term.dice? := by
  cases rest with
  | nil => rfl
  | cons second rest =>
    cases second with
    | dice _ other => rfl
    | flat number =>
      rw [readings, boundTerm]
      split
      · rfl
      · rfl

theorem boundTerm_doubled (written : WrittenDice) (rest : List WrittenTerm) :
    boundTerm written (doubled kind rest) = boundTerm written rest := by
  cases rest with
  | nil => rfl
  | cons second rest =>
    rw [doubled]
    split
    · cases second <;> rfl
    · cases second <;> rfl

theorem isLone_boundTerm (written : WrittenDice) (rest : List WrittenTerm) :
    (boundTerm written rest).isLone = written.term.isLone := by
  unfold boundTerm
  split
  · split <;> rfl
  · rfl

theorem doubles_readings (kind : KeepKind) (terms : List WrittenTerm) :
    Doubles kind ((readings terms).filterMap Term.dice?)
      ((readings (doubled kind terms)).filterMap Term.dice?) := by
  induction terms with
  | nil => exact .same (List.forall_mem_nil _)
  | cons term rest ih =>
    rw [doubled]
    cases term with
    | flat number =>
      exact ih
    | dice plus written =>
      split
      next lone =>
        rw [WrittenTerm.isLone, ← isLone_boundTerm written rest] at lone
        rw [WrittenTerm.twin, diceTerms_dice, diceTerms_dice]
        have before : ∀ term ∈ ([] : List DiceTerm), term.isLone = false := List.forall_mem_nil _
        refine .first before lone ?_
        obtain ⟨_, sides, _, burst⟩ := DiceTerm.shape_iff.mp (shape_boundTerm written rest)
        obtain ⟨_, twenty, _⟩ := DiceTerm.isLone_iff.mp lone
        rw [shape_boundTerm, written.shape_twin kind, ← sides, twenty, burst]
      next apart =>
        rw [WrittenTerm.isLone, Bool.not_eq_true, ← isLone_boundTerm written rest] at apart
        rw [diceTerms_dice, diceTerms_dice, boundTerm_doubled]
        exact ih.cons apart

theorem constants_doubled (kind : KeepKind) (terms : List WrittenTerm) :
    (doubled kind terms).map (fun term => term.term.constant) =
      terms.map fun term => term.term.constant := by
  induction terms with
  | nil => rfl
  | cons term rest ih =>
    rw [doubled]
    split
    · cases term <;> rfl
    · rw [List.map_cons, ih, List.map_cons]

theorem isSigned_doubled (kind : KeepKind) (terms : List WrittenTerm) :
    (doubled kind terms).map WrittenTerm.isSigned = terms.map WrittenTerm.isSigned := by
  induction terms with
  | nil => rfl
  | cons term rest ih =>
    rw [doubled]
    split
    · cases term <;> rfl
    · rw [List.map_cons, ih, List.map_cons]

theorem isSigned_tail_doubled (kind : KeepKind) {terms : List WrittenTerm}
    (signed : ∀ term ∈ terms.tail, term.isSigned = true) :
    ∀ term ∈ (doubled kind terms).tail, term.isSigned = true := by
  have same : (doubled kind terms).tail.map WrittenTerm.isSigned =
      terms.tail.map WrittenTerm.isSigned := by
    rw [List.map_tail, isSigned_doubled, List.map_tail]
  intro term member
  have inside := List.mem_map_of_mem (f := WrittenTerm.isSigned) member
  rw [same] at inside
  obtain ⟨other, there, equal⟩ := List.mem_map.mp inside
  rw [← equal]
  exact signed other there

theorem admissible_doubled {limits : Limits} (two : 2 ≤ limits.dice) {terms : List WrittenTerm}
    (admissible : ∀ term ∈ terms, term.Admissible limits) :
    ∀ term ∈ doubled kind terms, term.Admissible limits := by
  induction terms with
  | nil => exact List.forall_mem_nil _
  | cons term rest ih =>
    obtain ⟨here, there⟩ := List.forall_mem_cons.mp admissible
    rw [doubled]
    split
    · refine List.forall_mem_cons.mpr ⟨?_, there⟩
      cases term with
      | flat number => exact here
      | dice plus written => exact written.admissible_twin kind here two
    · exact List.forall_mem_cons.mpr ⟨here, ih there⟩

end Readings

/-- The formula parses with two dice in place of its first lone one, and nothing of it is ignored
or changes its sum. -/
theorem parse_doubled {limits : Limits} (two : 2 ≤ limits.dice) (kind : KeepKind)
    {terms : List Term} (found : terms ≠ []) (wellFormed : ∀ term ∈ terms, term.WellFormed limits)
    (clear : ∀ term ∈ terms, Clear term) :
    ∃ again changed, parse limits (formula terms) = .ok again ∧
      parse limits (Command.pairedFrom kind.pair none (formula terms)) = .ok changed ∧
      changed.ignored = [] ∧ changed.constant = again.constant ∧
      Doubles kind again.diceTerms changed.diceTerms := by
  obtain ⟨written, spells, signed, nonempty, text, rewrites⟩ :=
    exists_formulaWords kind found wellFormed clear
  have admissible := (spelled_forall₂ spells).1
  have words : ∀ word ∈ formulaWords terms, Text.isWord word = true := fun word member =>
    (isMarked_formulaWords wellFormed word member).isWord
  have plain : parse limits (formula terms) = .ok ⟨textOf written, readings written, []⟩ := by
    refine parse_textOf nonempty admissible signed ?_
    rw [formula_eq_joined, Text.withoutBlanks_joined words, text,
      Text.map_toLower_of_marks (marks_textOf written)]
  have filled : doubled kind written ≠ [] := by
    intro empty
    have lengths := congrArg List.length (isSigned_doubled kind written)
    rw [empty] at lengths
    exact nonempty (by simpa using lengths.symm)
  have solid : Text.withoutBlanks kind.pair = kind.pair := by cases kind <;> decide
  have changed : parse limits (Command.pairedFrom kind.pair none (formula terms)) =
      .ok ⟨textOf (doubled kind written), readings (doubled kind written), []⟩ := by
    refine parse_textOf filled (admissible_doubled two admissible)
      (isSigned_tail_doubled kind signed) ?_
    rw [formula_eq_joined, Command.withoutBlanks_pairedFrom solid words, rewrites,
      Text.map_toLower_of_marks (marks_textOf _)]
  refine ⟨_, _, plain, changed, rfl, ?_, doubles_readings kind written⟩
  rw [Parsed.constant_eq, Parsed.constant_eq, constants_readings, constants_readings,
    List.map_map, List.map_map]
  exact congrArg Numeral.sum (constants_doubled kind written)

end Notation

namespace Room

open Command (spoken)

/-- A formula that is rolled with flags is rolled as it is, unless they give an edge. Then it is
rolled with two dice in place of its first lone one, and with the same constants in sum. -/
theorem roll_formula_edge {wide limits : Limits} {raw : Text} {parsed again : Parsed}
    {flags : List Text} (read : Notation.parse wide raw = .ok parsed) (found : parsed.terms ≠ [])
    (clear : ∀ die ∈ parsed.diceTerms, die.count = 1 → die.sides = 20 →
      die.burst = none ∨ die.keep = none)
    (two : 2 ≤ limits.dice) (admitted : Notation.parse limits parsed.formula = .ok again)
    (flagged : ∀ flag ∈ flags, Command.isFlag flag = true) :
    ∃ expression,
      (∀ (σ : Type) [DrawSource σ] (room : Room σ) (place : Nat) (options : RollOptions),
        room.command place (spoken .roll (parsed.formula :: flags)) options =
          ((room.roll place expression options).1.bind (Reply.ofRoll expression),
            (room.roll place expression options).2)) ∧
      match (Command.edge flags).keep? with
      | none => expression = parsed.formula
      | some kind => ∃ changed, Notation.parse limits expression = .ok changed ∧
        changed.ignored = [] ∧ changed.constant = again.constant ∧
        Doubles kind again.diceTerms changed.diceTerms := by
  have wellFormed := Notation.wellFormed_of_admitted read found admitted
  have clear : ∀ term ∈ parsed.terms, Notation.Clear term := fun term member die given =>
    clear die (List.mem_filterMap.mpr ⟨term, member, given⟩)
  have ordered := Notation.orders_formula found wellFormed flagged
  refine ⟨Command.paired (Command.edge flags) parsed.formula, ?_, ?_⟩
  · intro σ _ room place options
    rw [Parsed.formula, command_eq ordered, fill_plain]
  · rw [Command.paired_eq]
    cases (Command.edge flags).keep? with
    | none => rfl
    | some kind =>
      obtain ⟨_, changed, plain, read, rest⟩ :=
        Notation.parse_doubled two kind found wellFormed clear
      cases admitted.symm.trans plain
      exact ⟨changed, read, rest⟩

/-! ### A die between two integers, and nothing at all -/

def betweenText : Text := "3 + D20 + 5 + d6".toList

def betweenParsed : Parsed where
  expression := "3+d20+5+d6".toList
  terms := [.flat ⟨3, "3".toList⟩, .dice ⟨1, 20, none, none, 0, "d20".toList⟩,
    .flat ⟨5, "+5".toList⟩, .dice ⟨1, 6, none, none, 0, "d6".toList⟩]
  ignored := []

def betweenAgain : Parsed where
  expression := "3+1d20+5+1d6".toList
  terms := [.flat ⟨3, "3".toList⟩, .dice ⟨1, 20, none, none, 0, "1d20".toList⟩,
    .flat ⟨5, "+5".toList⟩, .dice ⟨1, 6, none, none, 0, "1d6".toList⟩]
  ignored := []

theorem roll_formula_edge_between :
    (Notation.parse ⟨100, 1000, 50⟩ betweenText = .ok betweenParsed ∧ betweenParsed.terms ≠ [] ∧
      (∀ die ∈ betweenParsed.diceTerms, die.count = 1 → die.sides = 20 →
        die.burst = none ∨ die.keep = none) ∧
      Notation.parse ⟨2, 20, 0⟩ betweenParsed.formula = .ok betweenAgain ∧
      ∀ flag ∈ edgeFlags, Command.isFlag flag = true) ∧
    ∃ expression,
      (∀ (σ : Type) [DrawSource σ] (room : Room σ) (place : Nat) (options : RollOptions),
        room.command place (spoken .roll (betweenParsed.formula :: edgeFlags)) options =
          ((room.roll place expression options).1.bind (Reply.ofRoll expression),
            (room.roll place expression options).2)) ∧
      ∃ changed, Notation.parse ⟨2, 20, 0⟩ expression = .ok changed ∧
        changed.ignored = [] ∧ changed.constant = betweenAgain.constant ∧
        Doubles .keepHighest betweenAgain.diceTerms changed.diceTerms := by
  have read : Notation.parse ⟨100, 1000, 50⟩ betweenText = .ok betweenParsed := by cbv
  have found : betweenParsed.terms ≠ [] := List.cons_ne_nil _ _
  have clear : ∀ die ∈ betweenParsed.diceTerms, die.count = 1 → die.sides = 20 →
      die.burst = none ∨ die.keep = none := by decide
  have admitted : Notation.parse ⟨2, 20, 0⟩ betweenParsed.formula = .ok betweenAgain := by cbv
  have flagged : ∀ flag ∈ edgeFlags, Command.isFlag flag = true := by decide
  exact ⟨⟨read, found, clear, admitted, flagged⟩,
    roll_formula_edge read found clear (Int.le_refl 2) admitted flagged⟩

def blankParsed : Parsed := ⟨[], [], []⟩

/-- The formula of a blank expression is empty, and it is answered with the usage. -/
theorem not_roll_formula_edge_blank :
    (Notation.parse ⟨100, 1000, 50⟩ [' '] = .ok blankParsed ∧
      Notation.parse ⟨100, 1000, 50⟩ blankParsed.formula = .ok blankParsed) ∧
    ¬∃ expression, talliedRoom.command 0 (spoken .roll (blankParsed.formula :: edgeFlags)) {} =
      ((talliedRoom.roll 0 expression {}).1.bind (Reply.ofRoll expression),
        (talliedRoom.roll 0 expression {}).2) := by
  refine ⟨⟨by cbv, by cbv⟩, ?_⟩
  rintro ⟨expression, same⟩
  have read : Command.ofText (spoken .roll (blankParsed.formula :: edgeFlags)) =
      .ok ⟨.roll, edgeFlags⟩ := by
    have words : ((blankParsed.formula :: edgeFlags).flatMap Text.words).map Text.lower =
        edgeFlags := by decide +kernel
    rw [Command.ofText_spoken, words]
  rw [command_usage read (by decide)] at same
  obtain ⟨roll, _, replied⟩ := Notation.bind_success (congrArg Prod.fst same).symm
  cases Reply.roll_of_ofRoll replied

end Room

end Tabletop
