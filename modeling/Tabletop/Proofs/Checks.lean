import Tabletop.Proofs.Advantage
import Tabletop.Proofs.AllOrNothing
import Tabletop.Proofs.Endings
import Tabletop.Proofs.StrayText

/-!
# What a check rolls

A check is rolled through a text: its bonus is written behind its dice and read again with them. It
is bound to two dice, since they have a keep rule, and stands apart from one. Neither that nor its
sign makes a difference to the total, which is the face that counts under the flags and the bonus,
and the event is judged by the same face.
-/
namespace Tabletop

open DrawSource (after answer facesOf)

/-- The face that counts. With one of the flags it is the higher or the lower of two, and flags that
are equal cancel. -/
def countedFace (advantage disadvantage : Bool) (first second : Int) : Int :=
  match advantage, disadvantage with
  | true, false => max first second
  | false, true => min first second
  | _, _ => first

/-- The dice of a check: one, or two of which the first is kept exactly if its face counts. -/
def checkDice (advantage disadvantage : Bool) (first second : Int) : List Die :=
  let counted := countedFace advantage disadvantage first second
  if advantage = disadvantage then [⟨first, 20, true, false⟩]
  else [⟨first, 20, first == counted, false⟩, ⟨second, 20, first != counted, false⟩]

/-- Whatever comes before, the source answers with a side of the die. -/
def DrawSource.InRange {σ : Type} [DrawSource σ] (source : σ) (sides : Nat) : Prop :=
  ∀ place, ∃ face, answer source sides place = .integer face ∧ 1 ≤ face ∧ face ≤ sides

open DrawSource (InRange)

theorem DrawSource.InRange.face {σ : Type} [DrawSource σ] {source : σ} {sides : Nat}
    (within : InRange source sides) (place : Nat) :
    1 ≤ (answer source sides place).face ∧ (answer source sides place).face ≤ sides := by
  obtain ⟨face, shown, low, high⟩ := within place
  rw [shown]
  exact ⟨low, high⟩

section Faces

variable (advantage disadvantage : Bool) (first second : Int)

theorem countedFace_eq_or : countedFace advantage disadvantage first second = first ∨
    countedFace advantage disadvantage first second = second := by
  unfold countedFace
  split <;> omega

/-- With advantage a one counts only where both dice show it. -/
theorem countedFace_eq_one_iff {first second : Int} (one : 1 ≤ first) (other : 1 ≤ second) :
    countedFace true false first second = 1 ↔ first = 1 ∧ second = 1 := by
  rw [countedFace]
  omega

/-- With disadvantage a twenty counts only where both dice show it. -/
theorem countedFace_eq_twenty_iff {first second : Int} (one : first ≤ 20) (other : second ≤ 20) :
    countedFace false true first second = 20 ↔ first = 20 ∧ second = 20 := by
  rw [countedFace]
  omega

/-- The faces that are kept are the one that counts. -/
theorem kept_checkDice :
    ((checkDice advantage disadvantage first second).filter Die.kept).map Die.result =
      [countedFace advantage disadvantage first second] := by
  rw [checkDice]
  split
  next cancel =>
    subst cancel
    cases advantage <;> rfl
  next =>
    by_cases counts : first = countedFace advantage disadvantage first second
    · simp [← counts]
    · have other := (countedFace_eq_or advantage disadvantage first second).resolve_left
        (Ne.symm counts)
      rw [other] at counts ⊢
      simp [counts]

theorem sides_checkDice : ∀ die ∈ checkDice advantage disadvantage first second,
    die.sides = 20 := by
  rw [checkDice]
  split <;> simp

end Faces

/-! ### Two dice of which one is kept -/

/-- The earlier of equal faces ranks first. -/
theorem ranksBefore_pair (descending : Bool) (first second : Int) :
    ranksBefore descending (first, 0) (second, 1) =
      (first == if descending then max first second else min first second) := by
  rw [Bool.eq_iff_iff, beq_iff_eq, ranksBefore]
  cases descending <;> split <;> simp <;> omega

theorem rankedPlaces_pair (descending : Bool) (first second : Int) :
    rankedPlaces descending [first, second] =
      if ranksBefore descending (first, 0) (second, 1) then [0, 1] else [1, 0] := by
  rw [rankedPlaces, List.zipIdx_cons, List.zipIdx_cons, List.zipIdx_nil, List.mergeSort]
  simp only [List.MergeSort.Internal.splitInTwo_fst, List.MergeSort.Internal.splitInTwo_snd]
  cases earlier : ranksBefore descending (first, 0) (second, 1) <;> simp [earlier]

/-- Of two dice the first is kept exactly if it ranks before the second. -/
theorem KeepRule.keptFlags_pair (rule : KeepRule) (keeps : rule.drops = false)
    (one : rule.amount = 1) (first second : Int) :
    rule.keptFlags 2 [first, second] =
      [ranksBefore rule.descending (first, 0) (second, 1),
        !ranksBefore rule.descending (first, 0) (second, 1)] := by
  rw [KeepRule.keptFlags, keeps, one, rankedPlaces_pair]
  cases ranksBefore rule.descending (first, 0) (second, 1) <;> rfl

/-! ### The text of a check -/

namespace Notation

def DigitRun.twenty : DigitRun := .ofNat 20 (Numeral.fits_small (n := 20) (by decide))

end Notation

open Notation (WrittenDice WrittenInteger WrittenTerm DigitRun plainDice textOf readings)

namespace Edge

/-- The dice of an edge as the grammar writes them. -/
def written (edge : Edge) : WrittenDice :=
  let die := plainDice (some DigitRun.one) DigitRun.twenty
  match edge.keep? with
  | .none => die
  | some kind => die.twin kind

theorem text_written (edge : Edge) : edge.written.text = edge.dice := by
  cases edge <;> decide

theorem admissible_written {limits : Limits} (two : 2 ≤ limits.dice) (twenty : 20 ≤ limits.sides)
    (edge : Edge) : edge.written.Admissible limits := by
  have one : (1 : Int) ≤ limits.dice := by omega
  have die : (plainDice (some DigitRun.one) DigitRun.twenty).Admissible limits :=
    Notation.admissible_plainDice (by decide) one (by decide) twenty
  rw [written]
  cases edge.keep? with
  | none => exact die
  | some kind => exact WrittenDice.admissible_twin kind die two

end Edge

namespace Notation

variable {limits : Limits} {bonus : Int}

/-- The dice of a check, and its bonus if that is written. -/
def checkTerms (edge : Edge) (number : Option WrittenInteger) : List WrittenTerm :=
  .dice false edge.written :: (number.map .flat).toList

/-- The integers apart from the dice, which are the bonus or none. -/
theorem sum_flatTerms_readings (edge : Edge) (number : Option WrittenInteger) :
    let flat := Numeral.sum
      (((readings (checkTerms edge number)).filterMap Term.flat?).map FlatTerm.value)
    flat = 0 ∨ flat = number.elim 0 WrittenInteger.value := by
  cases number with
  | none => exact .inl rfl
  | some number =>
    simp only [checkTerms, Option.map_some, Option.toList_some, readings]
    split
    · exact .inl rfl
    · exact .inr (Int.add_zero _)

/-- The text of a check is text of the grammar. -/
theorem exists_parse_bonus (edge : Edge) (two : 2 ≤ limits.dice) (twenty : 20 ≤ limits.sides)
    (fits : Numeral.fits bonus = true) :
    ∃ number : Option WrittenInteger, number.elim 0 WrittenInteger.value = bonus ∧
      parse limits (edge.dice ++ DiceTerm.bonusText bonus) =
        .ok ⟨edge.dice ++ DiceTerm.bonusText bonus, readings (checkTerms edge number), []⟩ := by
  obtain ⟨number, text, value, signed, _⟩ := exists_bonus fits
  refine ⟨number, value, ?_⟩
  have spelled : textOf (checkTerms edge number) = edge.dice ++ DiceTerm.bonusText bonus := by
    rw [← text, ← edge.text_written]
    cases number <;> simp [checkTerms, textOf, WrittenTerm.text]
  have admissible : ∀ term ∈ checkTerms edge number, term.Admissible limits := by
    refine List.forall_mem_cons.mpr ⟨edge.admissible_written two twenty, fun term member => ?_⟩
    obtain ⟨number, _, rfl⟩ := Option.mem_map.mp (Option.mem_toList.mp member)
    trivial
  have allSigned : ∀ term ∈ (checkTerms edge number).tail, term.isSigned = true := by
    intro term member
    obtain ⟨number, given, rfl⟩ := Option.mem_map.mp (Option.mem_toList.mp member)
    exact signed number given
  rw [← spelled]
  exact parse_textOf (List.cons_ne_nil _ _) admissible allSigned
    (Text.spelled_of_marks (marks_textOf _))

/-- It reads as those dice and a constant of that bonus, which is bound to the dice or apart. -/
theorem exists_parse_check (edge : Edge) (two : 2 ≤ limits.dice) (twenty : 20 ≤ limits.sides)
    (fits : Numeral.fits bonus = true) :
    ∃ parsed die, parse limits (edge.dice ++ DiceTerm.bonusText bonus) = .ok parsed ∧
      parsed.diceTerms = [die] ∧ die.shape = edge.written.term.shape ∧
      parsed.constant = bonus ∧
      Numeral.fits (Numeral.sum (parsed.flatTerms.map FlatTerm.value)) = true := by
  obtain ⟨number, value, read⟩ := exists_parse_bonus edge two twenty fits
  refine ⟨_, boundTerm edge.written (number.map .flat).toList, read, ?_, shape_boundTerm _ _,
    ?_, ?_⟩
  · rw [Parsed.diceTerms, checkTerms, diceTerms_dice]
    cases number <;> rfl
  · have free : edge.written.term.bonus = 0 := by cases edge <;> rfl
    have constant (dice : WrittenDice) :
        (WrittenTerm.dice false dice).term.constant = dice.term.bonus := rfl
    rw [Parsed.constant_eq, constants_readings, checkTerms, List.map_cons, List.map_cons,
      constant, free]
    cases number <;> simp [Numeral.sum, ← value, WrittenTerm.term, Term.constant]
  · rcases sum_flatTerms_readings edge number with none | all
    · exact none.symm ▸ Numeral.fits_zero
    · rw [value] at all
      exact all.symm ▸ fits

end Notation

/-! ### Rolling one term -/

section Rolling

variable {σ : Type} [DrawSource σ] {source : σ}

/-- A single term that does not burst gives one group, of as many draws as it has dice. -/
theorem Roll.run_ofParsed_single {parsed : Parsed} {die : DiceTerm}
    (only : parsed.diceTerms = [die]) (plain : die.burst = none) (writable : die.isWritable = true)
    (within : InRange source die.sides) (limits : Limits) :
    (Roll.ofParsed limits parsed : Rolling σ Roll).run.run source =
      (.ok (Roll.ofGroups parsed [die.groupFrom source]), after source die.sides die.count) := by
  have none : die.burstCount (answer source die.sides) = 0 :=
    DiceTerm.burstCount_of_burst_none plain
  have rolled : (die.evaluate limits.bursts : Rolling σ DiceGroup).run.run source =
      (.ok (die.groupFrom source), after source die.sides die.count) := by
    rw [DiceTerm.run_evaluate_eq_ok_iff, none]
    refine ⟨fun place _ => ?_, Nat.zero_le _, writable, rfl, rfl⟩
    obtain ⟨face, shown, low, high⟩ := within place
    rw [shown]
    exact decide_eq_true ⟨low, high⟩
  rw [Roll.ofParsed, Rolling.run_bind, Rolling.run_adapt, only, Roll.groupsOf, Rolling.run_bind,
    rolled]
  rfl

namespace DiceTerm

variable {die : DiceTerm}

theorem groupFrom_of_burst_none (plain : die.burst = none) (source : σ) :
    die.groupFrom source =
      die.groupOf (facesOf source die.sides die.count) (List.replicate die.count false) := by
  have still : die.bursts = fun _ => false := by
    funext face
    rw [bursts, plain]
  rw [groupFrom, burstCount_of_burst_none plain, still]
  simp

/-- One die is kept. -/
theorem dice_groupFrom_single (source : σ) (shape : die.shape = (1, 20, none, none)) :
    (die.groupFrom source).dice = [⟨(answer source 20 0).face, 20, true, false⟩] := by
  obtain ⟨count, sides, keep, burst, bonus, text⟩ := die
  cases shape
  rw [groupFrom_of_burst_none rfl]
  rfl

/-- Of two dice the first is kept if it ranks before the second, and else the second. -/
theorem dice_groupFrom_pair (source : σ) {kind : KeepKind}
    (shape : die.shape = (2, 20, some ⟨kind, 1⟩, none)) (keeps : KeepRule.drops ⟨kind, 1⟩ = false) :
    let first := (answer source 20 0).face
    let second := (answer source 20 1).face
    let earlier := ranksBefore (KeepRule.descending ⟨kind, 1⟩) (first, 0) (second, 1)
    (die.groupFrom source).dice =
      [⟨first, 20, earlier, false⟩, ⟨second, 20, !earlier, false⟩] := by
  obtain ⟨count, sides, keep, burst, bonus, text⟩ := die
  cases shape
  intro first second earlier
  have flags := KeepRule.keptFlags_pair ⟨kind, 1⟩ keeps rfl first second
  rw [groupFrom_of_burst_none rfl]
  change List.zipWith _ [first, second]
    ((KeepRule.keptFlags ⟨kind, 1⟩ 2 [first, second]).zip [false, false]) = _
  rw [flags]
  rfl

end DiceTerm

/-- The dice fall as the flags say. -/
theorem dice_groupFrom_check (advantage disadvantage : Bool) (source : σ) {die : DiceTerm}
    (same : die.shape = (Edge.ofFlags advantage disadvantage).written.term.shape) :
    (die.groupFrom source).dice =
      checkDice advantage disadvantage (answer source 20 0).face (answer source 20 1).face := by
  generalize one : (answer source 20 0).face = first
  generalize other : (answer source 20 1).face = second
  match advantage, disadvantage, same with
  | false, false, same | true, true, same =>
    rw [DiceTerm.dice_groupFrom_single source same, one]
    rfl
  | true, false, same | false, true, same =>
    rw [DiceTerm.dice_groupFrom_pair source same rfl, one, other, ranksBefore_pair]
    rfl

end Rolling

/-! ### The outcome of a check -/

/-- A number with a digit to spare can still be written when a little is added. -/
theorem Numeral.fits_add {little n : Int} (few : little.natAbs ≤ 20)
    (short : (digits n.natAbs).length < maxDigits) : fits (little + n) = true := by
  -- The powers stay as they are, since they are too large to be worked out.
  obtain ⟨spare, size, many⟩ : ∃ spare, maxDigits = spare + 1 ∧ 2 ≤ spare :=
    ⟨4299, rfl, by decide⟩
  rw [size, Nat.lt_succ_iff] at short
  have bound : n.natAbs < 10 ^ spare :=
    (Nat.length_toDigits_le_iff (by decide) (by omega)).mp short
  have large : 10 ^ 2 ≤ 10 ^ spare := Nat.pow_le_pow_right (by decide) many
  rw [fits_iff, size, Nat.pow_succ]
  omega

theorem Numeral.fits_of_short {n : Int} (short : (digits n.natAbs).length < maxDigits) :
    fits n = true := by
  have few : (0 : Int).natAbs ≤ 20 := by decide
  simpa using fits_add few short

/-- The face that counts is the only one that is looked at for the event. -/
theorem Roll.shows_iff_of_checkDice {roll : Roll} {advantage disadvantage : Bool}
    {first second : Int}
    (dice : roll.groups.map DiceGroup.dice = [checkDice advantage disadvantage first second])
    (face : Int) :
    roll.shows face = true ↔ countedFace advantage disadvantage first second = face := by
  have kept := kept_checkDice advantage disadvantage first second
  have sides := sides_checkDice advantage disadvantage first second
  have groups : roll.shows face = (roll.groups.map DiceGroup.dice).any fun dice =>
      dice.any fun die => die.kept && die.sides == 20 && die.result == face := by
    rw [List.any_map]
    rfl
  have among : face ∈ ((checkDice advantage disadvantage first second).filter
      Die.kept).map Die.result ↔ countedFace advantage disadvantage first second = face := by
    rw [kept, List.mem_singleton, eq_comm]
  rw [groups, dice, List.any_cons, List.any_nil, Bool.or_false, List.any_eq_true, ← among,
    List.mem_map]
  simp only [Bool.and_eq_true, beq_iff_eq, List.mem_filter]
  refine exists_congr fun die => ⟨?_, ?_⟩
  · rintro ⟨member, ⟨held, _⟩, shown⟩
    exact ⟨⟨member, held⟩, shown⟩
  · rintro ⟨⟨member, held⟩, shown⟩
    exact ⟨member, ⟨held, sides die member⟩, shown⟩

namespace Room

variable {σ : Type} [DrawSource σ] {place : Nat} {room : Room σ} {table : Table σ}

/-- What comes of a check at a table. The total may be too long to be written. -/
theorem exists_outcome_check (two : 2 ≤ table.limits.dice) (twenty : 20 ≤ table.limits.sides)
    (within : InRange table.source 20) {bonus : Int} (fits : Numeral.fits bonus = true)
    (advantage disadvantage : Bool) (label : Option Text) :
    let first := (answer table.source 20 0).face
    let second := (answer table.source 20 1).face
    ∃ roll, outcome table
        ⟨(Edge.ofFlags advantage disadvantage).dice ++ DiceTerm.bonusText bonus, label⟩ =
          (.ok roll, after table.source 20 (if advantage = disadvantage then 1 else 2)) ∧
      roll.groups.map DiceGroup.dice = [checkDice advantage disadvantage first second] ∧
      roll.total = countedFace advantage disadvantage first second + bonus ∧
      Numeral.fits roll.flatSum = true := by
  intro first second
  obtain ⟨parsed, die, read, only, shape, constant, flat⟩ :=
    Notation.exists_parse_check (Edge.ofFlags advantage disadvantage) two twenty fits
  have found : parsed.terms ≠ [] := by
    intro empty
    rw [Parsed.diceTerms, empty, List.filterMap_nil] at only
    exact List.cons_ne_nil die [] only.symm
  obtain ⟨plain, sides, count⟩ : die.burst = none ∧ die.sides = 20 ∧
      die.count = if advantage = disadvantage then 1 else 2 := by
    obtain ⟨count, sides, _, burst⟩ := DiceTerm.shape_iff.mp shape
    rw [count, sides, burst]
    cases advantage <;> cases disadvantage <;> exact ⟨rfl, rfl, rfl⟩
  have writable : die.isWritable = true :=
    Notation.writable_of_parse read die (only ▸ List.mem_cons_self)
  have rolled := Roll.run_ofParsed_single only plain writable (sides ▸ within) table.limits
  have dice := dice_groupFrom_check advantage disadvantage table.source shape
  refine ⟨Roll.ofGroups parsed [die.groupFrom table.source], ?_,
    congrArg (fun dice => [dice]) dice, ?_, flat⟩
  · rw [outcome, Roll.ofExpression_of_parse read found, rolled, sides, count]
  · have subtotal : (die.groupFrom table.source).subtotal =
        countedFace advantage disadvantage first second + die.bonus := by
      rw [DiceTerm.groupFrom, DiceTerm.subtotal_groupOf, ← DiceTerm.groupFrom, dice,
        kept_checkDice]
      simp [Numeral.sum, first, second]
    rw [Parsed.constant, only] at constant
    simp only [Roll.ofGroups, List.map_cons, List.map_nil, Numeral.sum, subtotal] at constant ⊢
    omega

/-- A check means what its flags say. It draws one face, or two where exactly one of the flags is
set, and it counts the face that the flags say, with the bonus added to it. The event is critical if
that face is twenty and a fumble if it is one. -/
theorem check_counts (found : room.table? place = some table) (two : 2 ≤ table.limits.dice)
    (twenty : 20 ≤ table.limits.sides) (within : InRange table.source 20) (ability : Text)
    {bonus : Int} (short : (Numeral.digits bonus.natAbs).length < Numeral.maxDigits)
    (advantage disadvantage : Bool) (options : RollOptions) :
    let first := (answer table.source 20 0).face
    let second := (answer table.source 20 1).face
    let counted := countedFace advantage disadvantage first second
    let left := after table.source 20 (if advantage = disadvantage then 1 else 2)
    ∃ roll event,
      room.check place ⟨ability, bonus, Edge.ofFlags advantage disadvantage⟩ options =
        (.ok roll, if options.send then
            ((room.withSource place left).withRoll place roll).publish event
          else (room.withSource place left).withRoll place roll) ∧
      roll.groups.map DiceGroup.dice = [checkDice advantage disadvantage first second] ∧
      roll.total = counted + bonus ∧ event.roll = roll ∧
      (event.critical = true ↔ counted = 20) ∧ (event.fumble = true ↔ counted = 1) ∧
      (advantage = true → disadvantage = false →
        (event.fumble = true ↔ first = 1 ∧ second = 1)) ∧
      (advantage = false → disadvantage = true →
        (event.critical = true ↔ first = 20 ∧ second = 20)) := by
  intro first second counted left
  let given : Check := ⟨ability, bonus, Edge.ofFlags advantage disadvantage⟩
  let order : Order := ⟨given.edge.dice ++ DiceTerm.bonusText bonus, some given.label⟩
  have fits : Numeral.fits bonus = true := Numeral.fits_of_short short
  have ordered : given.order = .ok order := if_pos fits
  obtain ⟨roll, rolled, dice, total, flat⟩ : ∃ roll, outcome table order = (.ok roll, left) ∧
      roll.groups.map DiceGroup.dice = [checkDice advantage disadvantage first second] ∧
      roll.total = counted + bonus ∧ Numeral.fits roll.flatSum = true :=
    exists_outcome_check two twenty within fits advantage disadvantage _
  have critical : roll.isCritical = true ↔ counted = 20 := Roll.shows_iff_of_checkDice dice 20
  have fumble : roll.isFumble = true ↔ counted = 1 := Roll.shows_iff_of_checkDice dice 1
  have one : 1 ≤ first ∧ first ≤ 20 := within.face 0
  have other : 1 ≤ second ∧ second ≤ 20 := within.face 1
  refine ⟨roll, Event.ofRoll roll (options.under order), ?_, dice, total, rfl, critical, fumble,
    ?_, ?_⟩
  · have sent := send_under order options
    rw [check_ordered ordered, fill_roll found rolled]
    cases send : options.send with
    | false => exact announce_unsent (sent.trans send)
    | true =>
      have little : counted.natAbs ≤ 20 := by
        rcases countedFace_eq_or advantage disadvantage first second with same | same <;> omega
      have writable : roll.isWritable = true := by
        rw [isWritable_of_outcome rolled, flat, total, Numeral.fits_add little short]
        rfl
      exact announce_sent (sent.trans send) writable
  · rintro rfl rfl
    exact fumble.trans (countedFace_eq_one_iff one.1 other.1)
  · rintro rfl rfl
    exact critical.trans (countedFace_eq_twenty_iff one.2 other.2)

/-! ### A twenty that does not count -/

/-- The dice show twenty and seven in turn. -/
def fickleSource : Supply := .cycle [.integer 20, .integer 7] 0

/-- A room with one table, which has not rolled yet. -/
def fickleRoom : Room Supply :=
  let room := Room.start ⟨50, ⟨100, 1000, 50⟩, fun _ => fickleSource⟩ (Channel.start false)
  (room.create [] none none).2

theorem inRange_fickleSource : InRange fickleSource 20 := by
  have each (place next : Nat) : ∃ face, answer
      (Supply.cycle [.integer 20, .integer 7] next) 20 place = .integer face ∧
        1 ≤ face ∧ face ≤ 20 := by
    induction place generalizing next with
    | zero =>
      rcases Nat.mod_two_eq_zero_or_one next with even | odd
      · exact ⟨20, by simp [answer, after, DrawSource.draw, Supply.draw, even], by decide⟩
      · exact ⟨7, by simp [answer, after, DrawSource.draw, Supply.draw, odd], by decide⟩
    | succ place ih => exact ih (next + 1)
  exact fun place => each place 0

/-- With disadvantage the lower die counts, and the check is no critical. -/
theorem check_counts_fickleRoom : ∃ table, fickleRoom.table? 0 = some table ∧
    2 ≤ table.limits.dice ∧ 20 ≤ table.limits.sides ∧ InRange table.source 20 ∧
    (Numeral.digits (-3 : Int).natAbs).length < Numeral.maxDigits ∧
    ∃ (roll : Roll) (event : Event) (remembered : Room Supply),
      fickleRoom.check 0 ⟨"wit".toList, -3, .disadvantage⟩ {} =
        (.ok roll, remembered.publish event) ∧
      roll.groups.map DiceGroup.dice = [[⟨20, 20, false, false⟩, ⟨7, 20, true, false⟩]] ∧
      roll.total = 4 ∧ event.roll = roll ∧ event.critical = false ∧ event.fumble = false := by
  obtain ⟨table, found, limits, source⟩ : ∃ table, fickleRoom.table? 0 = some table ∧
      table.limits = ⟨100, 1000, 50⟩ ∧ table.source = fickleSource := ⟨_, rfl, rfl, rfl⟩
  have two : 2 ≤ table.limits.dice := by
    rw [limits]
    decide
  have twenty : 20 ≤ table.limits.sides := by
    rw [limits]
    decide
  have within : InRange table.source 20 := source ▸ inRange_fickleSource
  have short : (Numeral.digits (-3 : Int).natAbs).length < Numeral.maxDigits := by decide
  obtain ⟨roll, event, done, dice, total, told, critical, fumble, _⟩ :=
    check_counts found two twenty within "wit".toList short false true {}
  rw [source] at dice total critical fumble
  refine ⟨table, found, two, twenty, within, short, roll, event, _, done, dice, total, told,
    ?_, ?_⟩
  · rw [Bool.eq_false_iff, Ne, critical]
    decide
  · rw [Bool.eq_false_iff, Ne, fumble]
    decide

end Room

end Tabletop
