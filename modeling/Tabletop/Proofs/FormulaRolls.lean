import Tabletop.Proofs.Absorption
import Tabletop.Proofs.Commands
import Tabletop.Proofs.StrayText

/-!
# Rolling an expression and rolling its formula

An expression and its formula ask for the same dice, and the dice and the total come out the same.
The sum of the flat terms does not: an integer that stood apart in the expression may be bound to
dice in the formula. So where the total can be written, one of the two sums of flat terms may be too
long, and then of the two rolls only one can be sent.
-/
namespace Tabletop

/-- The sum of the flat terms, which the text of a roll writes beside the total. -/
def Parsed.flatSum (parsed : Parsed) : Int := Numeral.sum (parsed.flatTerms.map FlatTerm.value)

theorem Parsed.flatSum_of_bare {one other : Parsed}
    (same : one.terms.map Term.bare = other.terms.map Term.bare) :
    one.flatSum = other.flatSum := by
  have values (parsed : Parsed) : parsed.flatTerms.map FlatTerm.value =
      (parsed.terms.map Term.bare).filterMap fun term => term.flat?.map FlatTerm.value := by
    rw [flatTerms, List.map_filterMap, List.filterMap_map]
    congr 1
    funext term
    cases term <;> rfl
  rw [flatSum, flatSum, values, values, same]

/-- In the formula the flat terms are those that no dice take in. -/
theorem Notation.flatSum_again {limits : Limits} {raw : Text} {parsed again : Parsed}
    (read : parse limits raw = .ok parsed) (filled : parsed.terms ≠ [])
    (reread : parse limits parsed.formula = .ok again) :
    again.flatSum = Parsed.flatSum { parsed with terms := Term.absorbed parsed.terms } := by
  obtain ⟨written, spells, signed, _, parsedAgain⟩ := exists_reparse read filled
  rw [parsedAgain] at reread
  cases reread
  exact Parsed.flatSum_of_bare (bare_readings spells signed)

variable {σ : Type} [DrawSource σ]

theorem Roll.flatSum_of_rolled {limits : Limits} {raw : Text} {parsed : Parsed} {source after : σ}
    {roll : Roll} (read : Notation.parse limits raw = .ok parsed) (filled : parsed.terms ≠ [])
    (rolled : (ofExpression limits raw : Rolling σ Roll).run.run source = (.ok roll, after)) :
    roll.flatSum = parsed.flatSum := by
  rw [ofExpression_of_parse read filled] at rolled
  obtain ⟨groups, between, _, done⟩ := Rolling.run_bind_eq_ok rolled
  cases done
  rfl

/-- Two rolls with the same dice that are sent fail alike unless the total can be written and, of
the two sums of flat terms, only one. -/
theorem Roll.matches_sent_iff {one other : Roll} (same : one.SameDice other) (send : Bool) :
    Matches SameDice
        (if send && !(Numeral.fits one.flatSum && Numeral.fits one.total) then
          .error (.numeral .tooLongToWrite) else .ok one)
        (if send && !(Numeral.fits other.flatSum && Numeral.fits other.total) then
          .error (.numeral .tooLongToWrite) else .ok other) ↔
      (send = true → Numeral.fits one.total = true →
        Numeral.fits one.flatSum = Numeral.fits other.flatSum) := by
  have faults : Matches SameDice (.error (.numeral .tooLongToWrite))
    (.error (.numeral .tooLongToWrite)) := .fault rfl
  have results : Matches SameDice (.ok one) (.ok other) := .result same
  have first : ¬Matches SameDice (.error (.numeral .tooLongToWrite)) (.ok other) := nofun
  have second : ¬Matches SameDice (.ok one) (.error (.numeral .tooLongToWrite)) := nofun
  rw [← same.2]
  cases send <;> cases Numeral.fits one.total <;> cases Numeral.fits one.flatSum <;>
    cases Numeral.fits other.flatSum <;> simp [faults, results, first, second]

namespace Room

theorem source_roll {room : Room σ} {place : Nat} {table : Table σ}
    (found : room.table? place = some table) (raw : Text) (options : RollOptions) :
    ((room.roll place raw options).2.table? place).map Table.source =
      some (outcome table (.plain raw)).2 := by
  rw [← fill_plain, fill_filled found, table?, registry_publish?, ← table?,
    table?_withTable found, Option.map_some, Table.source_filled]

theorem result_roll {room : Room σ} {place : Nat} {table : Table σ}
    (found : room.table? place = some table) (raw : Text) (options : RollOptions) :
    (room.roll place raw options).1 = (table.filled (.plain raw) options).1 := by
  rw [← fill_plain, fill_filled found]

/-- Two expressions with the same shapes of dice and the same sum of constants are asked for the
same draws, and the rolls that are made have the same dice and the same total. If they are sent,
one can be told and the other cannot where the total can be written and only one of the two sums of
flat terms. -/
theorem roll_matches_iff {limits : Limits} {raw text : Text} {parsed again : Parsed}
    (read : Notation.parse limits raw = .ok parsed) (filled : parsed.terms ≠ [])
    (reread : Notation.parse limits text = .ok again) (refilled : again.terms ≠ [])
    (shapes : parsed.diceTerms.map DiceTerm.shape = again.diceTerms.map DiceTerm.shape)
    (constants : parsed.constant = again.constant) {one other : Room σ} {here there : Nat}
    {table twin : Table σ} (options : RollOptions) (found : one.table? here = some table)
    (twinFound : other.table? there = some twin) (limited : table.limits = limits)
    (twinLimited : twin.limits = limits) (equal : twin.source = table.source) :
    ((one.roll here raw options).2.table? here).map Table.source =
        ((other.roll there text options).2.table? there).map Table.source ∧
      (Matches Roll.SameDice (one.roll here raw options).1 (other.roll there text options).1 ↔
        (options.send = true → ∀ roll after, outcome table (.plain raw) = (.ok roll, after) →
          Numeral.fits roll.total = true →
            Numeral.fits parsed.flatSum = Numeral.fits again.flatSum)) := by
  obtain ⟨result, left⟩ : Matches Roll.SameDice (outcome table (.plain raw)).1
        (outcome twin (.plain text)).1 ∧
      (outcome table (.plain raw)).2 = (outcome twin (.plain text)).2 := by
    rw [outcome, outcome, limited, twinLimited, equal]
    exact Notation.ofExpression_alike read filled reread refilled shapes constants table.source
  rw [source_roll found, source_roll twinFound, result_roll found, result_roll twinFound, left]
  refine ⟨rfl, ?_⟩
  cases made : outcome table (.plain raw) with
  | mk first after =>
  cases remade : outcome twin (.plain text) with
  | mk second after' =>
  rw [made, remade] at result
  cases result with
  | fault kinds =>
    rw [Table.filled_of_fault made, Table.filled_of_fault remade]
    refine iff_of_true (.fault kinds) ?_
    intro _ _ _ rolled
    cases rolled
  | @result roll twinRoll same =>
    have flat : roll.flatSum = parsed.flatSum := by
      rw [outcome, limited] at made
      exact Roll.flatSum_of_rolled read filled made
    have twinFlat : twinRoll.flatSum = again.flatSum := by
      rw [outcome, twinLimited] at remade
      exact Roll.flatSum_of_rolled reread refilled remade
    rw [Table.filled_of_rolled made, Table.filled_of_rolled remade, Roll.matches_sent_iff same,
      flat, twinFlat]
    constructor
    · rintro alike send _ _ rolled total
      cases rolled
      exact alike send total
    · exact fun alike send => alike send roll after rfl

/-- The formula of an expression parses under the same limits and nothing of it is ignored: the
dice have the same shapes in the same order, and the constants have the same sum. At tables with the
same limits and equal sources, the expression and its formula are asked for the same draws, and
either fail alike or give the same dice in every group and the same total, with one exception: the
roll is made and is to be sent, its total can be written, and so can the sum of the flat terms of
the one but not of the other. -/
theorem roll_formula_matches_iff {limits : Limits} {raw : Text} {parsed : Parsed}
    (read : Notation.parse limits raw = .ok parsed) (filled : parsed.terms ≠ []) :
    ∃ again, Notation.parse limits parsed.formula = .ok again ∧ again.ignored = [] ∧
      again.diceTerms.map DiceTerm.shape = parsed.diceTerms.map DiceTerm.shape ∧
      again.constant = parsed.constant ∧
      ∀ (σ : Type) [DrawSource σ] (one other : Room (Tally σ)) (here there : Nat)
        (table twin : Table (Tally σ)) (options : RollOptions),
        one.table? here = some table → other.table? there = some twin →
        table.limits = limits → twin.limits = limits → twin.source = table.source →
        ((one.roll here raw options).2.table? here).map Table.source =
            ((other.roll there parsed.formula options).2.table? there).map Table.source ∧
          (Matches Roll.SameDice (one.roll here raw options).1
              (other.roll there parsed.formula options).1 ↔
            (options.send = true → ∀ roll after, outcome table (.plain raw) = (.ok roll, after) →
              Numeral.fits roll.total = true →
                Numeral.fits parsed.flatSum = Numeral.fits again.flatSum)) := by
  obtain ⟨again, reread, refilled, ignored, shapes, constants⟩ :=
    Notation.exists_again read filled
  refine ⟨again, reread, ignored, shapes, constants, ?_⟩
  intro σ _ one other here there table twin options found twinFound limited twinLimited equal
  exact roll_matches_iff read filled reread refilled shapes.symm constants.symm options found
    twinFound limited twinLimited equal

end Room

/-! ### An integer that stands apart in the text and is bound in the formula -/

def looseText : Text := "2d6x5 + 3kh".toList

def looseParsed : Parsed where
  expression := "2d6x5+3kh".toList
  terms := [.dice ⟨2, 6, none, some 6, 0, "2d6x".toList⟩, .flat ⟨5, "5".toList⟩,
    .flat ⟨3, "+3".toList⟩]
  ignored := ["kh".toList]

theorem Room.roll_formula_matches_iff_looseText :
    Notation.parse ⟨100, 1000, 50⟩ looseText = .ok looseParsed ∧ looseParsed.terms ≠ [] ∧
    looseParsed.formula = "2d6x + 5 + 3".toList ∧
    (∃ again, Notation.parse ⟨100, 1000, 50⟩ looseParsed.formula = .ok again ∧
      again.ignored = [] ∧
      again.diceTerms.map DiceTerm.shape = looseParsed.diceTerms.map DiceTerm.shape ∧
      again.constant = looseParsed.constant) ∧
    Matches Roll.SameDice (talliedRoom.roll 0 looseText {}).1
      (talliedRoom.roll 0 looseParsed.formula {}).1 := by
  have read : Notation.parse ⟨100, 1000, 50⟩ looseText = .ok looseParsed := by cbv
  have filled : looseParsed.terms ≠ [] := by decide
  have formula : looseParsed.formula = "2d6x + 5 + 3".toList := by decide
  have bound : Notation.parse ⟨100, 1000, 50⟩ "2d6x + 5 + 3".toList =
      .ok ⟨"2d6x+5+3".toList, [.dice ⟨2, 6, none, some 6, 5, "2d6x+5".toList⟩,
        .flat ⟨3, "+3".toList⟩], []⟩ := by cbv
  obtain ⟨again, reread, ignored, shapes, constants, rolls⟩ := roll_formula_matches_iff read filled
  obtain ⟨table, found, limits⟩ : ∃ table, talliedRoom.table? 0 = some table ∧
      table.limits = ⟨100, 1000, 50⟩ := ⟨_, rfl, rfl⟩
  have told := (rolls Supply talliedRoom talliedRoom 0 0 table table {} found found limits limits
    rfl).2
  refine ⟨read, filled, formula, ⟨again, reread, ignored, shapes, constants⟩, told.mpr ?_⟩
  intro _ _ _ _ _
  rw [formula, bound] at reread
  cases reread
  rw [show looseParsed.flatSum = (8 : Nat) from rfl, Numeral.fits_small (by decide)]
  exact (Numeral.fits_small (n := 3) (by decide)).symm

/-! ### A number that is part of a sum only outside the formula -/

theorem Numeral.value_nines_eight (n : Nat) :
    value (List.replicate n '9' ++ ['8']) + 2 = 10 ^ (n + 1) := by
  have nines := value_nines n
  have eight : (Text.digitValue? '8').getD 0 = 8 := by decide
  rw [value_append, eight, Nat.pow_succ]
  omega

namespace Notation

open Text (isDigit)

/-- Digits right after an `x` are no part of the suffix. -/
theorem pieces_x_run (run : DigitRun) (rest : Text) :
    pieces ('x' :: (run.text ++ rest)) = ([.burst none], run.text ++ rest) := by
  obtain ⟨c, tail, given⟩ := List.exists_cons_of_ne_nil run.nonempty
  have digit : isDigit c = true := run.digits c (by simp [given])
  have apart : c ≠ 'd' ∧ c ≠ 'k' ∧ c ≠ 'x' ∧ c ≠ '>' := by
    refine ⟨?_, ?_, ?_, ?_⟩ <;> rintro rfl <;> exact absurd digit (by decide)
  have noThreshold : threshold? (c :: (tail ++ rest)) = (none, c :: (tail ++ rest)) := by
    simp [threshold?, apart]
  have noPiece : piece? (c :: (tail ++ rest)) = none := by
    have noKeep : keepCode? (c :: (tail ++ rest)) = none := by
      unfold keepCode?
      split <;> simp_all
    simp [piece?, noKeep, startsStray, digit, apart]
  rw [given, List.cons_append, pieces_of_some (piece?_x _), noThreshold, pieces_of_none noPiece]

/-- One six-sided die that bursts on its highest face. -/
def burstDie : WrittenDice := { sixDie with burst := some ⟨none⟩ }

theorem admissible_burstDie : burstDie.Admissible ⟨100, 1000, 50⟩ where
  count_pos := by decide
  count_le := by decide
  sides_pos := by decide
  sides_le := by decide
  amount_pos := nofun
  threshold_pos := by
    intro burst given
    cases Option.some.inj given
    decide
  bonus_signed := nofun
  bonus_bound := nofun

/-- An integer without a sign right after a burst stands apart from the dice. -/
theorem parse_burstDie_run (run : DigitRun) {rest : List WrittenTerm}
    (admissible : ∀ term ∈ rest, term.Admissible ⟨100, 1000, 50⟩)
    (signed : ∀ term ∈ rest, term.isSigned = true) :
    parse ⟨100, 1000, 50⟩ (burstDie.text ++ textOf (.flat ⟨none, run⟩ :: rest)) =
      .ok { expression := burstDie.text ++ textOf (.flat ⟨none, run⟩ :: rest)
            terms := .dice burstDie.term :: .flat ⟨run.value, run.text⟩ :: readings rest
            ignored := [] } := by
  have whole : ∀ term ∈ WrittenTerm.flat ⟨none, run⟩ :: rest, term.Admissible ⟨100, 1000, 50⟩ :=
    List.forall_mem_cons.mpr ⟨trivial, admissible⟩
  have die : ∀ c ∈ (burstDie.head false).count, isDigit c = true :=
    List.forall_mem_singleton.mpr (by decide)
  have head : head? (burstDie.text ++ textOf (.flat ⟨none, run⟩ :: rest)) =
      some (burstDie.head false, 'x' :: (run.text ++ textOf rest)) :=
    @head?_append (burstDie.head false) _ die burstDie.sides.digits burstDie.sides.nonempty
      (endsRun_cons (by decide))
  have cut : lexemes (burstDie.text ++ textOf (.flat ⟨none, run⟩ :: rest)) =
      (WrittenTerm.dice false burstDie).lexemes ++
        ((WrittenTerm.flat ⟨none, run⟩).lexemes ++ rest.flatMap WrittenTerm.lexemes) := by
    have others : lexemes (run.text ++ textOf rest) =
        (WrittenTerm.flat ⟨none, run⟩).lexemes ++ rest.flatMap WrittenTerm.lexemes :=
      lexemes_textOf whole signed
    rw [lexemes_of_head? head, pieces_x_run, others]
    rfl
  have marks : ∀ c ∈ burstDie.text ++ textOf (.flat ⟨none, run⟩ :: rest),
      Text.isMark c = true :=
    List.forall_mem_append.mpr ⟨burstDie.marks, marks_textOf _⟩
  have others := readTerms_lexemes (burstDie.text ++ textOf (.flat ⟨none, run⟩ :: rest)) admissible
  have read : readTerms ⟨100, 1000, 50⟩ (burstDie.text ++ textOf (.flat ⟨none, run⟩ :: rest))
      ((WrittenTerm.dice false burstDie).lexemes ++
        ((WrittenTerm.flat ⟨none, run⟩).lexemes ++ rest.flatMap WrittenTerm.lexemes)) =
      .ok (.dice burstDie.term :: .flat ⟨run.value, run.text⟩ :: readings rest, []) :=
    readTerms_closed_flat admissible_burstDie others (Bool.and_false _)
  rw [parse, normalize_of_marks marks (Text.spelled_of_marks marks), scan, cut, read]
  rfl

/-- The largest even number that can be read. -/
def evenRun : DigitRun where
  text := List.replicate (Numeral.maxDigits - 1) '9' ++ ['8']
  nonempty := List.append_ne_nil_of_right_ne_nil _ (List.cons_ne_nil _ _)
  digits := by
    intro c member
    rcases List.mem_append.mp member with nine | eight
    · rw [List.eq_of_mem_replicate nine]
      decide
    · rw [List.mem_singleton.mp eight]
      decide
  short := by
    rw [List.length_append, List.length_replicate]
    decide

theorem value_evenRun : evenRun.value + 2 = 10 ^ Numeral.maxDigits := by
  have places : Numeral.maxDigits - 1 + 1 = Numeral.maxDigits := rfl
  rw [DigitRun.value, evenRun, Numeral.value_nines_eight, places]

theorem fits_two : Numeral.fits 2 = true := Numeral.fits_small (n := 2) (by decide)

theorem fits_ten : Numeral.fits 10 = true := Numeral.fits_small (n := 10) (by decide)

/-- A two, and one more die less ten. -/
def outsizeRest : List WrittenTerm :=
  [.flat ⟨some .plus, .ofNat 2 fits_two⟩,
   .dice true { burstDie with bonus := some ⟨some .minus, .ofNat 10 fits_ten⟩ }]

/-- The number stands apart from the first die. -/
def outsizeText : Text := burstDie.text ++ textOf (.flat ⟨none, evenRun⟩ :: outsizeRest)

def outsizeParsed : Parsed where
  expression := outsizeText
  terms := .dice burstDie.term :: .flat ⟨evenRun.value, evenRun.text⟩ ::
    outsizeRest.map WrittenTerm.term
  ignored := []

theorem parse_outsizeText : parse ⟨100, 1000, 50⟩ outsizeText = .ok outsizeParsed := by
  refine parse_burstDie_run evenRun ?_ ?_
  · simp only [outsizeRest, List.forall_mem_cons]
    refine ⟨trivial, ?_, List.forall_mem_nil _⟩
    exact { admissible_burstDie with
      bonus_signed := fun _ given => Option.some.inj given ▸ rfl
      bonus_bound := fun _ => rfl }
  · simp only [outsizeRest, List.forall_mem_cons]
    exact ⟨rfl, rfl, List.forall_mem_nil _⟩

theorem flatSum_outsizeParsed : outsizeParsed.flatSum = (10 ^ Numeral.maxDigits : Nat) := by
  have sum : outsizeParsed.flatSum = evenRun.value + (2 + 0) := rfl
  rw [sum, ← value_evenRun]
  rfl

/-- In the formula the number belongs to the die. -/
theorem fits_flatSum_again {again : Parsed}
    (reread : parse ⟨100, 1000, 50⟩ outsizeParsed.formula = .ok again) :
    Numeral.fits again.flatSum = true := by
  have bound := flatSum_again parse_outsizeText (List.cons_ne_nil _ _) reread
  rw [bound]
  exact fits_two

end Notation

open Notation (outsizeText outsizeParsed burstDie)

/-- A room with one table, whose dice all show a one. -/
def lowRoom : Room (Tally Supply) :=
  let room := Room.start ⟨50, ⟨100, 1000, 50⟩, fun _ => .start .lowest⟩ (Channel.start false)
  (room.create [] none none).2

/-- One die less ten. -/
def tenLessDie : DiceTerm := ⟨1, 6, none, some 6, -10, "1d6x-10".toList⟩

def outsizeGroups : List DiceGroup :=
  [⟨some burstDie.term, 6, 1, [⟨1, 6, true, false⟩], 1⟩,
   ⟨some tenLessDie, 6, 1, [⟨1, 6, true, false⟩], -9⟩]

def outsizeRoll : Roll := Roll.ofGroups outsizeParsed outsizeGroups

theorem outcome_outsizeText {table : Table (Tally Supply)}
    (limited : table.limits = ⟨100, 1000, 50⟩) (fresh : table.source = .start .lowest) :
    Room.outcome table (.plain outsizeText) = (.ok outsizeRoll, ⟨.lowest, [6, 6]⟩) := by
  have writable := Notation.writable_of_parse Notation.parse_outsizeText
  have terms : outsizeParsed.diceTerms = [burstDie.term, tenLessDie] := rfl
  rw [terms] at writable
  have first : burstDie.term.isWritable = true := writable _ List.mem_cons_self
  have second : tenLessDie.isWritable = true :=
    writable _ (List.mem_cons_of_mem _ List.mem_cons_self)
  have rolled : (Roll.groupsOf 50 [burstDie.term, tenLessDie] : Rolling (Tally Supply) _).run.run
      (.start .lowest) = (.ok outsizeGroups, ⟨.lowest, [6, 6]⟩) := by
    rw [Roll.groupsOf, Roll.groupsOf, DiceTerm.evaluate, DiceTerm.evaluate, first, second]
    cbv
  rw [Room.outcome, limited, fresh, Order.plain,
    Roll.ofExpression_of_parse Notation.parse_outsizeText (List.cons_ne_nil _ _), Roll.ofParsed,
    Rolling.run_bind, Rolling.run_adapt, terms, rolled]
  rfl

theorem total_outsizeRoll : outsizeRoll.total = (10 ^ Numeral.maxDigits : Nat) - 8 := by
  have sum : outsizeRoll.total = (1 + (-9 + 0)) + outsizeParsed.flatSum := rfl
  rw [sum, Notation.flatSum_outsizeParsed]
  omega

/-- The roll of the expression cannot be sent, and that of its formula can. -/
theorem not_matches_formula_outsizeText :
    Notation.parse ⟨100, 1000, 50⟩ outsizeText = .ok outsizeParsed ∧ outsizeParsed.terms ≠ [] ∧
    (∃ table, lowRoom.table? 0 = some table ∧ table.limits = ⟨100, 1000, 50⟩) ∧
    ¬Matches Roll.SameDice (lowRoom.roll 0 outsizeText {}).1
      (lowRoom.roll 0 outsizeParsed.formula {}).1 := by
  have read := Notation.parse_outsizeText
  have filled : outsizeParsed.terms ≠ [] := List.cons_ne_nil _ _
  obtain ⟨table, found, limited, fresh⟩ : ∃ table, lowRoom.table? 0 = some table ∧
      table.limits = ⟨100, 1000, 50⟩ ∧ table.source = .start .lowest := ⟨_, rfl, rfl, rfl⟩
  refine ⟨read, filled, ⟨table, found, limited⟩, fun same => ?_⟩
  obtain ⟨again, reread, refilled, _, shapes, constants⟩ := Notation.exists_again read filled
  have told := (Room.roll_matches_iff read filled reread refilled shapes.symm constants.symm {}
    found found limited limited rfl).2.mp same
  have large : 8 < 10 ^ Numeral.maxDigits :=
    Nat.lt_of_lt_of_le (by decide : 8 < 10 ^ 1)
      (Nat.pow_le_pow_right (by decide) (by decide))
  have total : Numeral.fits outsizeRoll.total = true := by
    rw [Numeral.fits_iff, total_outsizeRoll]
    omega
  have flat : Numeral.fits outsizeParsed.flatSum = false := by
    rw [Bool.eq_false_iff, Ne, Numeral.fits_iff, Notation.flatSum_outsizeParsed]
    omega
  have alike := told rfl _ _ (outcome_outsizeText limited fresh) total
  rw [flat, Notation.fits_flatSum_again reread] at alike
  cases alike

end Tabletop
