import Tabletop.Proofs.Commands
import Tabletop.Proofs.Splicing

/-!
# Stray text before dice

Stray text is skipped in two ways. At the beginning it goes character by character, up to the dice
after it. In the suffix of other dice it goes by a rule that stops only at a sign or a `d`, so the
count of the dice after it is skipped with it, and they are read as one die. What is shown is what
both make of plain dice. Stray text with a sign, a digit or a letter of the notation is not treated.
-/
namespace Tabletop.Notation

open Text (isDigit)

/-- A character that normalization leaves alone and that begins neither a term nor a modifier. -/
def IsJunk (c : Char) : Prop :=
  normalize [c] = [c] ∧ isDigit c = false ∧ c ∉ ['+', '-', 'd', 'k', 'x']

theorem continuesStray_of_isDigit {c : Char} (digit : isDigit c = true) :
    continuesStray c = true := by
  simp only [continuesStray, Bool.and_eq_true, bne_iff_ne]
  refine ⟨⟨?_, ?_⟩, ?_⟩ <;> rintro rfl <;> exact absurd digit (by decide)

section Junk

variable {c : Char} {junk : Text}

theorem IsJunk.ne (h : IsJunk c) : c ≠ '+' ∧ c ≠ '-' ∧ c ≠ 'd' ∧ c ≠ 'k' ∧ c ≠ 'x' := by
  simpa using h.2.2

theorem IsJunk.splitSign_cons (h : IsJunk c) (rest : Text) :
    splitSign (c :: rest) = (none, c :: rest) := by
  simp [splitSign, h.ne]

theorem IsJunk.head?_cons (h : IsJunk c) (rest : Text) : head? (c :: rest) = none := by
  simp [head?, h.splitSign_cons, h.2.1, h.ne]

theorem IsJunk.whole?_cons (h : IsJunk c) (rest : Text) : whole? (c :: rest) = none := by
  simp [whole?, h.splitSign_cons, h.2.1]

theorem IsJunk.continuesStray (h : IsJunk c) : continuesStray c = true := by
  simp [Notation.continuesStray, h.ne]

/-- In a suffix, stray text runs on as long as it may. -/
theorem IsJunk.piece?_cons (h : IsJunk c) (rest : Text) : piece? (c :: rest) =
    some (.stray (c :: rest.takeWhile Notation.continuesStray),
      rest.dropWhile Notation.continuesStray) := by
  have noKeep : keepCode? (c :: rest) = none := by simp [keepCode?, h.ne]
  have starts : startsStray c = true := by simp [startsStray, h.continuesStray, h.2.1]
  simp [piece?, noKeep, h.ne, starts]

theorem normalize_junk (each : ∀ c ∈ junk, IsJunk c) : normalize junk = junk := by
  induction junk with
  | nil => rfl
  | cons c junk ih =>
    rw [List.forall_mem_cons] at each
    exact normalize_append each.1.1 (ih each.2)

/-- Before anything that is no stray text itself, stray text is skipped alone. -/
theorem lexemes_junk_append (filled : junk ≠ []) (each : ∀ c ∈ junk, IsJunk c) {rest : Text}
    {lexeme : Lexeme} {list : List Lexeme} (next : lexemes rest = lexeme :: list)
    (solid : lexeme.isStray = false) :
    lexemes (junk ++ rest) = .stray junk :: lexemes rest := by
  induction junk with
  | nil => exact absurd rfl filled
  | cons c junk ih =>
    rw [List.forall_mem_cons] at each
    rw [List.cons_append, lexemes_of_stray (each.1.head?_cons _) (each.1.whole?_cons _)]
    cases junk with
    | nil =>
      rw [List.nil_append, next]
      cases lexeme with
      | stray text => cases solid
      | dice | whole => rfl
    | cons a junk => rw [ih (List.cons_ne_nil a junk) each.2, consStray]

/-- In a suffix, the digits behind stray text are skipped with it. -/
theorem pieces_junk_append (filled : junk ≠ []) (each : ∀ c ∈ junk, IsJunk c) {run rest : Text}
    (digits : ∀ c ∈ run, isDigit c = true) (die : ∀ c ∈ rest.head?, c = 'd')
    (noPiece : piece? rest = none) :
    pieces (junk ++ (run ++ rest)) = ([.stray (junk ++ run)], rest) := by
  obtain ⟨c, junk, rfl⟩ := List.exists_cons_of_ne_nil filled
  rw [List.forall_mem_cons] at each
  have skipped : ∀ a ∈ junk ++ run, continuesStray a = true := by
    rw [List.forall_mem_append]
    exact ⟨fun a member => (each.2 a member).continuesStray, fun a member =>
      continuesStray_of_isDigit (digits a member)⟩
  have stop : ∀ a ∈ rest.head?, continuesStray a = false := by
    intro a first
    rw [die a first]
    decide
  have cut := each.1.piece?_cons (junk ++ (run ++ rest))
  rw [← List.append_assoc, takeWhile_splice stop, dropWhile_splice stop,
    List.takeWhile_eq_self_iff.mpr skipped, List.dropWhile_eq_nil_iff.mpr skipped] at cut
  rw [← List.append_assoc, List.cons_append, List.cons_append, pieces_of_some cut,
    List.nil_append, pieces_of_none noPiece]

end Junk

/-- Dice without a modifier. -/
def plainDice (count : Option DigitRun) (sides : DigitRun) : WrittenDice where
  count := count
  sides := sides
  keep := none
  burst := none
  keepFirst := false
  bonus := none

section Between

variable {limits : Limits} {junk : Text} {count number : Option DigitRun} {sides faces : DigitRun}

theorem text_plainDice (count : Option DigitRun) (sides : DigitRun) :
    (plainDice count sides).text = DigitRun.textOf count ++ 'd' :: sides.text := by
  simp [WrittenDice.text, WrittenDice.stem, WrittenDice.modifierText, WrittenDice.keepText,
    WrittenDice.burstText, WrittenDice.bonusText, plainDice]

theorem text_die (sides : DigitRun) : (plainDice none sides).text = 'd' :: sides.text :=
  text_plainDice none sides

theorem text_head_plainDice (count : Option DigitRun) (sides : DigitRun) :
    ((plainDice count sides).head false).text = (plainDice count sides).text := by
  rw [text_plainDice]
  rfl

theorem normalize_plainDice (count : Option DigitRun) (sides : DigitRun) :
    normalize (plainDice count sides).text = (plainDice count sides).text :=
  normalize_of_marks (WrittenDice.marks _) (Text.spelled_of_marks (WrittenDice.marks _))

theorem lexemes_plainDice (count : Option DigitRun) (sides : DigitRun) :
    lexemes (plainDice count sides).text = [.dice ((plainDice count sides).head false) []] := by
  have cut := lexemes_stem_append false (plainDice count sides) atSign_nil
  have bare : (plainDice count sides).pieces = [] := rfl
  have unbound : (plainDice count sides).bonusText = [] := rfl
  rw [bare, lexemes_nil] at cut
  rw [WrittenDice.text, unbound]
  exact cut

/-- A die is no keep rule, since its sides begin with a digit. -/
theorem piece?_die (faces : DigitRun) : piece? (plainDice none faces).text = none := by
  obtain ⟨a, rest, given⟩ := List.exists_cons_of_ne_nil faces.nonempty
  have digit : isDigit a = true := faces.digits a (by simp [given])
  have noKeep : keepCode? ('d' :: a :: rest) = none := by
    unfold keepCode?
    split <;> simp_all +decide
  have stops : startsStray 'd' = false := by decide
  rw [text_die, given]
  simp [piece?, noKeep, stops]

/-- Between plain dice, stray text takes the count of the second with it. -/
theorem lexemes_stray_between (filled : junk ≠ []) (each : ∀ c ∈ junk, IsJunk c) :
    lexemes ((plainDice count sides).text ++ junk ++ (plainDice number faces).text) =
      [.dice ((plainDice count sides).head false) [.stray (junk ++ DigitRun.textOf number)],
        .dice ((plainDice none faces).head false) []] := by
  have ends : EndsRun (junk ++ (DigitRun.textOf number ++ (plainDice none faces).text)) := by
    obtain ⟨c, junk, rfl⟩ := List.exists_cons_of_ne_nil filled
    exact endsRun_cons (each c List.mem_cons_self).2.1
  have die : ∀ c ∈ (plainDice none faces).text.head?, c = 'd' := by
    intro c first
    rw [text_die] at first
    exact (Option.some.inj first).symm
  have cut := @head?_append ((plainDice count sides).head false) _ DigitRun.digits_textOf
    sides.digits sides.nonempty ends
  rw [text_head_plainDice] at cut
  rw [text_plainDice number, ← text_die, List.append_assoc, lexemes_of_head? cut,
    pieces_junk_append filled each DigitRun.digits_textOf die (piece?_die faces), lexemes_plainDice]

theorem admissible_plainDice (countPos : 1 ≤ (plainDice count sides).term.count)
    (countLe : ((plainDice count sides).term.count : Int) ≤ limits.dice)
    (sidesPos : 1 ≤ sides.value) (sidesLe : (sides.value : Int) ≤ limits.sides) :
    (plainDice count sides).Admissible limits where
  count_pos := countPos
  count_le := countLe
  sides_pos := sidesPos
  sides_le := sidesLe
  amount_pos := nofun
  threshold_pos := nofun
  bonus_signed := nofun
  bonus_bound := nofun

/-- One die is within the limits where any dice are. -/
theorem admissible_die (first : (plainDice count sides).Admissible limits)
    (second : (plainDice number faces).Admissible limits) :
    (plainDice none faces).Admissible limits :=
  admissible_plainDice (Nat.le_refl 1)
    (Int.le_trans (Int.ofNat_le.mpr first.count_pos) first.count_le) second.sides_pos
    second.sides_le

theorem readTerms_plainDice (admissible : (plainDice count sides).Admissible limits)
    (expression : Text) :
    readTerms limits expression [.dice ((plainDice count sides).head false) []] =
      .ok ([.dice (plainDice count sides).term], []) := by
  have read := WrittenDice.readDice_written false expression admissible
  rw [WrittenDice.stemTerm_of_bonus_none rfl] at read
  exact readTerms_dice read rfl fun _ _ => nofun

/-- Stray text in the suffix is ignored, and kept in the source. -/
theorem readDice_stray (admissible : (plainDice count sides).Admissible limits)
    (expression text : Text) :
    readDice limits expression ((plainDice count sides).head false) [.stray text] =
      .ok ({ (plainDice count sides).term with source := (plainDice count sides).text ++ text },
        [text]) := by
  have source : ((plainDice count sides).head false).unsigned = (plainDice count sides).text :=
    text_head_plainDice count sides
  simp only [readDice, WrittenDice.read_head false expression admissible, readSuffix, source,
    Suffix.ignoring, Piece.text, List.flatMap_cons, List.flatMap_nil, List.append_nil, bind,
    Except.bind, pure, Except.pure]
  rfl

/-- Stray text leaves the dice after it as they are at the beginning, but not behind plain dice:
there their count is ignored with it, and they are one die. -/
theorem parse_stray_between (filled : junk ≠ []) (each : ∀ c ∈ junk, IsJunk c)
    (first : (plainDice count sides).Admissible limits)
    (second : (plainDice number faces).Admissible limits) :
    parse limits (junk ++ (plainDice number faces).text) =
      .ok { expression := junk ++ (plainDice number faces).text
            terms := [.dice (plainDice number faces).term]
            ignored := [junk] } ∧
    parse limits ((plainDice count sides).text ++ junk ++ (plainDice number faces).text) =
      .ok { expression := (plainDice count sides).text ++ junk ++ (plainDice number faces).text
            terms := [
              .dice { (plainDice count sides).term with
                source := (plainDice count sides).text ++ (junk ++ DigitRun.textOf number) },
              .dice (plainDice none faces).term]
            ignored := [junk ++ DigitRun.textOf number] } := by
  have plain := normalize_append (normalize_junk each) (normalize_plainDice number faces)
  have glued := normalize_append (normalize_plainDice count sides) plain
  constructor
  · have cut := lexemes_junk_append filled each (lexemes_plainDice number faces) rfl
    rw [parse, plain, scan, cut, lexemes_plainDice, readTerms, readTerms_plainDice second]
    rfl
  · rw [← List.append_assoc] at glued
    have others := readTerms_plainDice (admissible_die first second)
      ((plainDice count sides).text ++ junk ++ (plainDice number faces).text)
    have read := readTerms_dice (readDice_stray first _ (junk ++ DigitRun.textOf number)) others
      (by simp)
    rw [parse, glued, scan, lexemes_stray_between filled each, read]
    rfl

end Between

/-! ### A letter between one die and two -/

/-- A run of one digit. -/
def DigitRun.single (c : Char) (digit : isDigit c = true) : DigitRun where
  text := [c]
  nonempty := List.cons_ne_nil c []
  digits := List.forall_mem_singleton.mpr digit
  short := (by decide : 1 ≤ Numeral.maxDigits)

def sixDie : WrittenDice := plainDice (some (.single '1' (by decide))) (.single '6' (by decide))

def eightDice : WrittenDice := plainDice (some (.single '2' (by decide))) (.single '8' (by decide))

theorem parse_stray_between_letter :
    (∀ c ∈ ['z'], IsJunk c) ∧ sixDie.Admissible ⟨100, 1000, 50⟩ ∧
    eightDice.Admissible ⟨100, 1000, 50⟩ ∧
    parse ⟨100, 1000, 50⟩ "z2d8".toList = .ok
      ⟨"z2d8".toList, [.dice ⟨2, 8, none, none, 0, "2d8".toList⟩], ["z".toList]⟩ ∧
    parse ⟨100, 1000, 50⟩ "1d6z2d8".toList = .ok
      ⟨"1d6z2d8".toList, [.dice ⟨1, 6, none, none, 0, "1d6z2".toList⟩,
        .dice ⟨1, 8, none, none, 0, "d8".toList⟩], ["z2".toList]⟩ := by
  have junk : ∀ c ∈ ['z'], IsJunk c := by
    rw [List.forall_mem_singleton]
    exact ⟨by cbv, by decide, by decide⟩
  have first : sixDie.Admissible ⟨100, 1000, 50⟩ :=
    admissible_plainDice (by decide) (by decide) (by decide) (by decide)
  have second : eightDice.Admissible ⟨100, 1000, 50⟩ :=
    admissible_plainDice (by decide) (by decide) (by decide) (by decide)
  have alone : ['z'] ++ eightDice.text = "z2d8".toList := by decide
  have behind : sixDie.text ++ ['z'] ++ eightDice.text = "1d6z2d8".toList := by decide
  obtain ⟨one, two⟩ := parse_stray_between (List.cons_ne_nil _ _) junk first second
  rw [← eightDice, alone] at one
  rw [← eightDice, ← sixDie, behind] at two
  exact ⟨junk, first, second, one.trans (congrArg Except.ok (by decide)),
    two.trans (congrArg Except.ok (by decide))⟩

/-- The count of the second dice is lost with the letter. -/
theorem not_parse_counts_letter : ¬∃ parsed, parse ⟨100, 1000, 50⟩ "1d6z2d8".toList = .ok parsed ∧
    (parsed.diceTerms.map fun term => (term.count, term.sides)) = [(1, 6), (2, 8)] ∧
    parsed.ignored = ["z".toList] := by
  have read : parse ⟨100, 1000, 50⟩ "1d6z2d8".toList = .ok
      ⟨"1d6z2d8".toList, [.dice ⟨1, 6, none, none, 0, "1d6z2".toList⟩,
        .dice ⟨1, 8, none, none, 0, "d8".toList⟩], ["z2".toList]⟩ := by cbv
  rintro ⟨parsed, found, counts, _⟩
  cases read.symm.trans found
  exact absurd counts (by decide)

end Tabletop.Notation
