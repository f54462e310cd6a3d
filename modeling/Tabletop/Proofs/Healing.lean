import Tabletop.Proofs.Commands

/-!
# Healing

A healing command rolls its first word and leaves out every other, where a rolling command joins
its words. So the two come to the same exactly for a single word, unless both fail alike. The words
hold no flag here, since a rolling command does not roll those.
-/
namespace Tabletop.Room

open Command (spoken)

variable {σ : Type} [DrawSource σ]

/-- A word stands for itself alone. -/
theorem lower_eq_flatten_iff {word : Text} {rest : List Text}
    (each : ∀ part ∈ word :: rest, Text.isWord part = true) :
    Text.lower word = ((word :: rest).map Text.lower).flatten ↔ (word :: rest).length = 1 := by
  cases rest with
  | nil => simp
  | cons next rest =>
    have filled := Text.lower_ne_nil (Text.isWord_iff.mp (each next (by simp))).1
    simp [filled]

section Words

variable (room : Room (Tally σ)) (place : Nat) (options : RollOptions)

/-- The first word against all of them. -/
theorem heal_sameOutcome_cons {word : Text} {rest : List Text}
    (each : ∀ part ∈ word :: rest, Text.isWord part = true)
    (plain : ∀ part ∈ word :: rest, Command.isFlag (Text.lower part) = false) :
    SameOutcome (room.command place (spoken .heal (word :: rest)) options)
        (room.command place (spoken .roll (word :: rest)) options) ↔
      Text.lower word = ((word :: rest).map Text.lower).flatten ∨
        FailAlike (room.command place (spoken .heal (word :: rest)) options)
          (room.command place (spoken .roll (word :: rest)) options) := by
  have heals := Command.orders_heal each
  have rolls := Command.orders_roll (List.cons_ne_nil word rest) each plain
    (List.forall_mem_nil _)
  have first : Notation.normalize (Text.lower word) = Text.lower word := by
    have joined := Notation.normalize_joined
      (List.forall_mem_singleton.mpr (each word List.mem_cons_self))
    rw [List.map_singleton, List.flatten_singleton] at joined
    exact joined
  rw [List.append_nil, Command.edge_nil, Command.paired_none] at rolls
  rw [sameOutcome_iff heals rolls, Order.plain, Notation.normalize_joined each, first]

theorem heal_sameOutcome_first {word : Text} {rest : List Text}
    (each : ∀ part ∈ word :: rest, Text.isWord part = true)
    (plain : Command.isFlag (Text.lower word) = false) :
    SameOutcome (room.command place (spoken .heal (word :: rest)) options)
      (room.command place (spoken .roll [word]) options) := by
  have heals := Command.orders_heal each
  have alone := Command.orders_roll (List.cons_ne_nil word [])
    (fun part member => each part (by simp_all)) (List.forall_mem_singleton.mpr plain)
    (List.forall_mem_nil _)
  exact sameOutcome_of_normalize heals alone rfl

/-- Healing comes to what is rolled for its first word alone, and so to what is rolled for all its
words exactly if there are no others, unless both fail alike. -/
theorem heal_sameOutcome_iff {words : List Text} (filled : words ≠ [])
    (each : ∀ word ∈ words, Text.isWord word = true)
    (plain : ∀ word ∈ words, Command.isFlag (Text.lower word) = false) :
    SameOutcome (room.command place (spoken .heal words) options)
      (room.command place (spoken .roll (words.take 1)) options) ∧
    (SameOutcome (room.command place (spoken .heal words) options)
        (room.command place (spoken .roll words) options) ↔
      words.length = 1 ∨ FailAlike (room.command place (spoken .heal words) options)
        (room.command place (spoken .roll words) options)) := by
  obtain ⟨word, rest, rfl⟩ := List.exists_cons_of_ne_nil filled
  constructor
  · exact heal_sameOutcome_first room place options each (plain word List.mem_cons_self)
  · rw [heal_sameOutcome_cons room place options each plain, lower_eq_flatten_iff each]

end Words

/-! ### Healing with a modifier set apart -/

def spacedWords : List Text := ["2d4".toList, "+".toList, "2".toList]

theorem heal_sameOutcome_iff_spacedWords :
    (spacedWords ≠ [] ∧ (∀ word ∈ spacedWords, Text.isWord word = true) ∧
      ∀ word ∈ spacedWords, Command.isFlag (Text.lower word) = false) ∧
    SameOutcome (talliedRoom.command 0 (spoken .heal spacedWords) {})
      (talliedRoom.command 0 (spoken .roll (spacedWords.take 1)) {}) ∧
    (SameOutcome (talliedRoom.command 0 (spoken .heal spacedWords) {})
        (talliedRoom.command 0 (spoken .roll spacedWords) {}) ↔
      spacedWords.length = 1 ∨ FailAlike (talliedRoom.command 0 (spoken .heal spacedWords) {})
        (talliedRoom.command 0 (spoken .roll spacedWords) {})) := by
  have each : ∀ word ∈ spacedWords, Text.isWord word = true := by decide
  have plain : ∀ word ∈ spacedWords, Command.isFlag (Text.lower word) = false := by decide +kernel
  exact ⟨⟨by decide, each, plain⟩,
    heal_sameOutcome_iff talliedRoom 0 {} (List.cons_ne_nil _ _) each plain⟩

def smallDice : DiceTerm := ⟨2, 4, none, none, 0, "2d4".toList⟩

def smallParsed : Parsed := ⟨"2d4".toList, [.dice smallDice], []⟩

theorem parse_smallDice : Notation.parse ⟨100, 1000, 50⟩ "2d4".toList = .ok smallParsed := by cbv

def smallGroup : DiceGroup := ⟨some smallDice, 4, 2, [⟨4, 4, true, false⟩, ⟨4, 4, true, false⟩], 8⟩

theorem run_smallDice : (Roll.groupsOf 50 smallParsed.diceTerms : Rolling (Tally Supply) _).run.run
    (.start .highest) = (.ok [smallGroup], ⟨.highest, [4, 4]⟩) := by
  have writable := Notation.writable_of_parse parse_smallDice smallDice List.mem_cons_self
  have terms : smallParsed.diceTerms = [smallDice] := rfl
  rw [terms, Roll.groupsOf, DiceTerm.evaluate, writable]
  cbv

/-- The dice are rolled and the modifier is not. -/
theorem not_heal_sameOutcome_spacedWords :
    (spacedWords ≠ [] ∧ (∀ word ∈ spacedWords, Text.isWord word = true) ∧
      ∀ word ∈ spacedWords, Command.isFlag (Text.lower word) = false) ∧
    ¬SameOutcome (talliedRoom.command 0 (spoken .heal spacedWords) {})
      (talliedRoom.command 0 (spoken .roll spacedWords) {}) := by
  have each : ∀ word ∈ spacedWords, Text.isWord word = true := by decide
  have plain : ∀ word ∈ spacedWords, Command.isFlag (Text.lower word) = false := by decide +kernel
  refine ⟨⟨by decide, each, plain⟩, fun same => ?_⟩
  rcases (heal_sameOutcome_cons talliedRoom 0 {} each plain).mp same with equal | ⟨_, _, failed, _⟩
  · exact absurd equal (by decide +kernel)
  · have first : Text.lower "2d4".toList = "2d4".toList := by decide +kernel
    have ordered := Command.orders_heal each
    rw [first] at ordered
    obtain ⟨reply, answered⟩ := answered_talliedRoom ordered parse_smallDice
      (List.cons_ne_nil _ _) run_smallDice Numeral.fits_zero
      (Numeral.fits_small (n := 8) (by decide))
    exact nomatch answered.symm.trans failed

end Tabletop.Room
