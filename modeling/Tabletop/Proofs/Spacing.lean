import Tabletop.Proofs.LoneDice

/-!
# Words glued together

A rolling command whose words are glued together comes to the same, unless the glueing makes
another text of them or, with an edge, brings out another lone die: the die is looked for while the
words still stand apart. Only a capital sigma at the end of a word makes another text.
-/
namespace Tabletop

namespace Command

/-- What stands in place of the die under an edge. -/
theorem exists_dice_of_edge {edge : Edge} (given : edge ≠ .none) :
    ∃ tail, edge.dice = '2' :: tail ∧ 4 ≤ tail.length ∧
      Text.withoutBlanks edge.dice = edge.dice ∧ ∀ c ∈ edge.dice, Text.isSettled c = true := by
  cases edge with
  | none => exact absurd rfl given
  | advantage =>
    exact ⟨"d20kh1".toList, rfl, by decide, by decide, List.all_eq_true.mp (by decide +kernel)⟩
  | disadvantage =>
    exact ⟨"d20kl1".toList, rfl, by decide, by decide, List.all_eq_true.mp (by decide +kernel)⟩

theorem mem_replaced {pair text : Text} {parts : Option (Text × Text)} (out : LeavesOut text parts)
    {c : Char} (member : c ∈ replaced pair text parts) : c ∈ pair ∨ c ∈ text := by
  cases parts with
  | none => exact .inr member
  | some parts =>
    obtain ⟨die, _, rfl⟩ := out
    simp only [replaced, List.mem_append] at member ⊢
    tauto

variable {words : List Text}

theorem normalize_paired {edge : Edge} (given : edge ≠ .none)
    (each : ∀ word ∈ words, Text.isWord word = true) :
    Notation.normalize (paired edge (Text.joined [' '] (words.map Text.lower))) =
      rewritten edge.dice (words.map Text.lower) := by
  obtain ⟨_, _, _, solid, settled⟩ := exists_dice_of_edge given
  rw [Notation.normalize, paired, if_neg given,
    withoutBlanks_pairedFrom solid (Text.isWord_of_mem_map_lower each)]
  apply Text.lower_of_isSettled
  intro c member
  rcases mem_replaced (leavesOut_loneDieOf? _) member with inside | inside
  · exact settled c inside
  · exact Text.isSettled_of_mem_flatten inside

end Command

namespace Room

open Command (spoken loneDie? loneDieOf?)

variable {σ : Type} [DrawSource σ]

omit [DrawSource σ] in
theorem SameOutcome.refl (one : Except Fault Reply × Room σ) : SameOutcome one one := by
  obtain ⟨found, room⟩ := one
  cases found with
  | error fault => exact .inl ⟨fault, fault, rfl, rfl, rfl⟩
  | ok reply => exact .inr ⟨reply, reply, rfl, rfl, rfl, rfl⟩

theorem isWord_flatten {words : List Text} (filled : words ≠ [])
    (each : ∀ word ∈ words, Text.isWord word = true) : Text.isWord words.flatten = true := by
  obtain ⟨word, rest, rfl⟩ := List.exists_cons_of_ne_nil filled
  refine Text.isWord_iff.mpr ⟨?_, ?_⟩
  · exact List.append_ne_nil_of_left_ne_nil (Text.isWord_iff.mp (each word List.mem_cons_self)).1 _
  · intro c member
    obtain ⟨part, inside, here⟩ := List.mem_flatten.mp member
    exact (Text.isWord_iff.mp (each part inside)).2 c here

/-- The normal forms of the words apart and glued together. -/
theorem normalize_paired_eq_iff (edge : Edge) {words : List Text} (filled : words ≠ [])
    (each : ∀ word ∈ words, Text.isWord word = true) :
    Notation.normalize (Command.paired edge (Text.joined [' '] (words.map Text.lower))) =
        Notation.normalize
          (Command.paired edge (Text.joined [' '] ([words.flatten].map Text.lower))) ↔
      (words.map Text.lower).flatten = Text.lower words.flatten ∧
        (edge = .none ∨
          loneDieOf? (words.map Text.lower) = loneDie? none (Text.lower words.flatten)) := by
  have whole : ∀ word ∈ [words.flatten], Text.isWord word = true :=
    List.forall_mem_singleton.mpr (isWord_flatten filled each)
  by_cases given : edge = .none
  · subst given
    rw [Command.paired_none, Command.paired_none, Notation.normalize_joined each,
      Notation.normalize_joined whole]
    simp
  · obtain ⟨tail, dice, long, _⟩ := Command.exists_dice_of_edge given
    rw [Command.normalize_paired given each, Command.normalize_paired given whole, dice,
      Command.rewritten, Command.rewritten,
      Command.replaced_eq_iff long (Command.leavesOut_loneDieOf? _)
        (Command.leavesOut_loneDieOf? _)]
    · simp [Command.loneDieOf?_singleton, given]
    · simpa using Text.map_plainSigma_flatten words

section Glued

variable (room : Room (Tally σ)) (place : Nat) (options : RollOptions) {words flags : List Text}

theorem roll_glued_of_filled (filled : words ≠ []) (each : ∀ word ∈ words, Text.isWord word = true)
    (plain : ∀ word ∈ words, Command.isFlag (Text.lower word) = false)
    (glued : Command.isFlag (Text.lower words.flatten) = false)
    (flagged : ∀ flag ∈ flags, Command.isFlag flag = true) :
    SameOutcome (room.command place (spoken .roll (words ++ flags)) options)
        (room.command place (spoken .roll (words.flatten :: flags)) options) ↔
      ((words.map Text.lower).flatten = Text.lower words.flatten ∧
        (Command.edge flags = .none ∨
          loneDieOf? (words.map Text.lower) = loneDie? none (Text.lower words.flatten))) ∨
      FailAlike (room.command place (spoken .roll (words ++ flags)) options)
        (room.command place (spoken .roll (words.flatten :: flags)) options) := by
  have apart := Command.orders_roll filled each plain flagged
  have whole := Command.orders_roll (List.cons_ne_nil words.flatten [])
    (List.forall_mem_singleton.mpr (isWord_flatten filled each))
    (List.forall_mem_singleton.mpr glued) flagged
  rw [List.singleton_append] at whole
  rw [sameOutcome_iff apart whole, Order.plain, Order.plain,
    normalize_paired_eq_iff (Command.edge flags) filled each]

/-- Without words there are the flags alone. -/
theorem roll_glued_nil :
    SameOutcome (room.command place (spoken .roll flags) options)
      (room.command place (spoken .roll ([] :: flags)) options) := by
  have same : Command.ofText (spoken .roll ([] :: flags)) =
      Command.ofText (spoken .roll flags) := by
    rw [Command.ofText_spoken, Command.ofText_spoken]
    rfl
  rw [command, command, same]
  exact SameOutcome.refl _

/-- The words come to the same apart and glued together exactly if they make the same text and,
with an edge, have the same lone die, unless both fail alike. -/
theorem roll_glued_sameOutcome_iff (each : ∀ word ∈ words, Text.isWord word = true)
    (plain : ∀ word ∈ words, Command.isFlag (Text.lower word) = false)
    (glued : Command.isFlag (Text.lower words.flatten) = false)
    (flagged : ∀ flag ∈ flags, Command.isFlag flag = true) :
    SameOutcome (room.command place (spoken .roll (words ++ flags)) options)
        (room.command place (spoken .roll (words.flatten :: flags)) options) ↔
      ((words.map Text.lower).flatten = Text.lower words.flatten ∧
        (Command.edge flags = .none ∨
          loneDieOf? (words.map Text.lower) = loneDie? none (Text.lower words.flatten))) ∨
      FailAlike (room.command place (spoken .roll (words ++ flags)) options)
        (room.command place (spoken .roll (words.flatten :: flags)) options) := by
  by_cases filled : words = []
  · subst filled
    exact iff_of_true (roll_glued_nil room place options) (.inl ⟨rfl, .inr rfl⟩)
  · exact roll_glued_of_filled room place options filled each plain glued flagged

end Glued

/-! ### A lone die in one word and in two -/

def wholeDieWords : List Text := ["1d20".toList, "+".toList, "5".toList]

def brokenDieWords : List Text := ["1".toList, "d20".toList]

theorem roll_glued_sameOutcome_wholeDieWords :
    ((∀ word ∈ wholeDieWords, Text.isWord word = true) ∧
      (∀ word ∈ wholeDieWords, Command.isFlag (Text.lower word) = false) ∧
      Command.isFlag (Text.lower wholeDieWords.flatten) = false ∧
      ∀ flag ∈ edgeFlags, Command.isFlag flag = true) ∧
    SameOutcome (talliedRoom.command 0 (spoken .roll (wholeDieWords ++ edgeFlags)) {})
      (talliedRoom.command 0 (spoken .roll (wholeDieWords.flatten :: edgeFlags)) {}) := by
  have each : ∀ word ∈ wholeDieWords, Text.isWord word = true := by decide
  have plain : ∀ word ∈ wholeDieWords, Command.isFlag (Text.lower word) = false := by
    decide +kernel
  have glued : Command.isFlag (Text.lower wholeDieWords.flatten) = false := by decide +kernel
  have flagged : ∀ flag ∈ edgeFlags, Command.isFlag flag = true := by decide
  have whole : (wholeDieWords.map Text.lower).flatten = Text.lower wholeDieWords.flatten := by
    decide +kernel
  have found : loneDieOf? (wholeDieWords.map Text.lower) =
      loneDie? none (Text.lower wholeDieWords.flatten) := by decide +kernel
  exact ⟨⟨each, plain, glued, flagged⟩,
    (roll_glued_sameOutcome_iff talliedRoom 0 {} each plain glued flagged).mpr
      (.inl ⟨whole, .inr found⟩)⟩

def twinDice : DiceTerm := ⟨2, 20, some ⟨.keepHighest, 1⟩, none, 0, "2d20kh1".toList⟩

def twinParsed : Parsed := ⟨"2d20kh1".toList, [.dice twinDice], []⟩

def twinGroup : DiceGroup :=
  ⟨some twinDice, 20, 2, [⟨20, 20, true, false⟩, ⟨20, 20, false, false⟩], 20⟩

theorem parse_twinDice : Notation.parse ⟨100, 1000, 50⟩ "2d20kh1".toList = .ok twinParsed := by cbv

theorem run_twinDice : (Roll.groupsOf 50 twinParsed.diceTerms : Rolling (Tally Supply) _).run.run
    (.start .highest) = (.ok [twinGroup], ⟨.highest, [20, 20]⟩) := by
  have writable := Notation.writable_of_parse parse_twinDice twinDice List.mem_cons_self
  have terms : twinParsed.diceTerms = [twinDice] := rfl
  rw [terms, Roll.groupsOf, DiceTerm.evaluate, writable]
  cbv

/-- The count in a word of its own joins the two dice, and twelve are rolled. -/
theorem not_roll_glued_sameOutcome_brokenDieWords :
    ((∀ word ∈ brokenDieWords, Text.isWord word = true) ∧
      (∀ word ∈ brokenDieWords, Command.isFlag (Text.lower word) = false) ∧
      Command.isFlag (Text.lower brokenDieWords.flatten) = false ∧
      ∀ flag ∈ edgeFlags, Command.isFlag flag = true) ∧
    ¬SameOutcome (talliedRoom.command 0 (spoken .roll (brokenDieWords ++ edgeFlags)) {})
      (talliedRoom.command 0 (spoken .roll (brokenDieWords.flatten :: edgeFlags)) {}) := by
  have each : ∀ word ∈ brokenDieWords, Text.isWord word = true := by decide
  have plain : ∀ word ∈ brokenDieWords, Command.isFlag (Text.lower word) = false := by
    decide +kernel
  have glued : Command.isFlag (Text.lower brokenDieWords.flatten) = false := by decide +kernel
  have flagged : ∀ flag ∈ edgeFlags, Command.isFlag flag = true := by decide
  refine ⟨⟨each, plain, glued, flagged⟩, fun same => ?_⟩
  rcases (roll_glued_of_filled talliedRoom 0 {} (List.cons_ne_nil _ _) each plain glued
    flagged).mp same with ⟨_, given⟩ | ⟨_, _, _, failed, _⟩
  · exact absurd given (by decide +kernel)
  · have ordered := Command.orders_roll
      (List.cons_ne_nil brokenDieWords.flatten []) (List.forall_mem_singleton.mpr (by decide))
      (List.forall_mem_singleton.mpr glued) flagged
    have rewritten : Command.paired (Command.edge edgeFlags)
        (Text.joined [' '] ([brokenDieWords.flatten].map Text.lower)) = "2d20kh1".toList := by
      decide +kernel
    rw [rewritten] at ordered
    obtain ⟨reply, answered⟩ := answered_talliedRoom ordered parse_twinDice
      (List.cons_ne_nil _ _) run_twinDice Numeral.fits_zero
      (Numeral.fits_small (n := 20) (by decide))
    exact nomatch answered.symm.trans failed

end Room

end Tabletop
