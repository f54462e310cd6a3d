import Tabletop.Proofs.LoneDice
import Tabletop.Proofs.RoundTrip

/-!
# The words of a formula

The terms of a formula and the signs between them are its words. The lone die that is looked for in
them is the first term with one twenty-sided die and no keep rule. A term with a burst before its
keep rule is left aside: its keep rule does not show right after the die.
-/
namespace Tabletop

namespace Command

/-! ### Where no die can be found -/

/-- No `d` stands right before a two. -/
def IsDieless (text : Text) : Prop := text.IsChain fun first second => first = 'd' → second ≠ '2'

theorem IsDieless.append {first second : Text} (absent : 'd' ∉ first) (dieless : IsDieless second) :
    IsDieless (first ++ second) := by
  induction first with
  | nil => exact dieless
  | cons c first ih =>
    rw [List.mem_cons, not_or] at absent
    exact List.isChain_cons.mpr ⟨fun _ _ same => absurd same.symm absent.1, ih absent.2⟩

theorem isDieless_of_not_mem {text : Text} (absent : 'd' ∉ text) : IsDieless text := by
  have dieless : IsDieless (text ++ []) := IsDieless.append absent .nil
  rw [List.append_nil] at dieless
  exact dieless

theorem loneDie?_of_isDieless {text : Text} (dieless : IsDieless text) (before : Option Char) :
    loneDie? before text = none := by
  rw [Option.eq_none_iff_forall_ne_some]
  rintro ⟨front, rest⟩ found
  obtain ⟨die, lone, rfl⟩ := text_of_loneDie? found
  have chain : IsDieless die := dieless.infix ⟨front, rest, rfl⟩
  rcases lone with rfl | rfl
  · exact absurd chain (by simp [IsDieless])
  · exact absurd chain (by simp [IsDieless])

theorem loneDie?_after_digits {c : Char} (digit : isDigit c = true) {run text : Text}
    (digits : ∀ a ∈ run, isDigit a = true) (dieless : IsDieless text) :
    loneDie? (some c) (run ++ 'd' :: text) = none := by
  -- No die begins after a digit: neither within the run nor at the `d` behind it.
  have blocked (rest : Text) : afterLoneDie? (some c) rest = none := if_pos digit
  induction run generalizing c with
  | nil => rw [List.nil_append, loneDie?, blocked, loneDie?_of_isDieless dieless]
           rfl
  | cons a run ih =>
    obtain ⟨here, there⟩ := List.forall_mem_cons.mp digits
    rw [List.cons_append, loneDie?, blocked, ih here there fun _ => if_pos here]
    rfl

/-! ### Where a die can be found -/

theorem takeWhile_append_digitless {run rest : Text} (digits : ∀ c ∈ run, isDigit c = true)
    (digitless : rest.head?.any isDigit = false) : (run ++ rest).takeWhile isDigit = run := by
  rw [List.takeWhile_append_of_pos digits]
  cases rest with
  | nil => exact List.append_nil run
  | cons c rest =>
    have mark : ¬isDigit c = true := Bool.eq_false_iff.mp digitless
    rw [List.takeWhile_cons_of_neg mark, List.append_nil]

/-- A numeral that stands for itself before other text is known by its digits. -/
theorem eq_of_digits_append {n : Nat} {run rest tail : Text}
    (digits : ∀ c ∈ run, isDigit c = true) (digitless : rest.head?.any isDigit = false)
    (closed : tail.head?.any isDigit = false) (same : Numeral.digits n ++ rest = run ++ tail) :
    n = Numeral.value run ∧ rest = tail := by
  have runs : Numeral.digits n = run := by
    rw [← takeWhile_append_digitless (fun _ => Numeral.isDigit_of_mem_digits) digitless, same,
      takeWhile_append_digitless digits closed]
  refine ⟨?_, ?_⟩
  · rw [← runs, Numeral.value_digits]
  · rw [runs] at same
    exact List.append_cancel_left same

theorem afterLoneDie?_of_numerals {n s : Nat} {rest tail : Text}
    (digitless : rest.head?.any isDigit = false)
    (found : afterLoneDie? none (Numeral.digits n ++ 'd' :: (Numeral.digits s ++ rest)) =
      some tail) :
    n = 1 ∧ s = 20 ∧ startsKeep rest = false := by
  obtain ⟨_, ⟨die, lone, text⟩, closed, free⟩ := afterLoneDie?_eq_some_iff.mp found
  have mark (rest : Text) : ('d' :: rest).head?.any isDigit = false :=
    (by decide : isDigit 'd' = false)
  rcases lone with rfl | rfl
  · have empty := congrArg (List.takeWhile isDigit) text
    rw [takeWhile_append_digitless (fun _ => Numeral.isDigit_of_mem_digits) (mark _)] at empty
    exact absurd empty (Numeral.digits_ne_nil n)
  · have one : ∀ c ∈ ['1'], isDigit c = true := List.all_eq_true.mp (by decide)
    have twenty : ∀ c ∈ ['2', '0'], isDigit c = true := List.all_eq_true.mp (by decide)
    obtain ⟨count, others⟩ := eq_of_digits_append one (mark _) (mark ('2' :: '0' :: tail)) text
    obtain ⟨sides, rfl⟩ := eq_of_digits_append twenty digitless closed (List.cons.inj others).2
    exact ⟨count.trans (by decide), sides.trans (by decide), free⟩

theorem loneDie?_of_numerals {n s : Nat} {rest : Text} (digitless : rest.head?.any isDigit = false)
    (dieless : IsDieless (Numeral.digits s ++ rest)) :
    loneDie? none (Numeral.digits n ++ 'd' :: (Numeral.digits s ++ rest)) =
      if n = 1 ∧ s = 20 ∧ startsKeep rest = false then some ([], rest) else none := by
  obtain ⟨c, run, written⟩ := List.exists_cons_of_ne_nil (Numeral.digits_ne_nil n)
  have digits : ∀ a ∈ c :: run, isDigit a = true := fun a member =>
    Numeral.isDigit_of_mem_digits (written ▸ member)
  obtain ⟨digit, digits⟩ := List.forall_mem_cons.mp digits
  have later := loneDie?_after_digits digit digits dieless
  split
  next here =>
    obtain ⟨rfl, rfl, free⟩ := here
    have found : afterLoneDie? none (Numeral.digits 1 ++ 'd' :: (Numeral.digits 20 ++ rest)) =
        some rest := afterLoneDie?_eq_some_iff.mpr ⟨rfl, ⟨_, .inr rfl, rfl⟩, digitless, free⟩
    rw [written] at found ⊢
    rw [List.cons_append, loneDie?, ← List.cons_append, found]
  next apart =>
    have missed : afterLoneDie? none (Numeral.digits n ++ 'd' :: (Numeral.digits s ++ rest)) =
        none := by
      rw [Option.eq_none_iff_forall_ne_some]
      exact fun tail found => apart (afterLoneDie?_of_numerals digitless found)
    rw [written] at missed ⊢
    rw [List.cons_append, loneDie?, ← List.cons_append, missed, later]
    rfl

theorem startsKeep_cons {c : Char} (other : c ≠ 'd' ∧ c ≠ 'k') (text : Text) :
    startsKeep (c :: text) = false := by
  cases text with
  | nil => rfl
  | cons a text => simp [startsKeep, other]

theorem loneDieOf?_of_not_mem {words : List Text} (absent : ∀ word ∈ words, 'd' ∉ word) :
    loneDieOf? words = none := by
  induction words with
  | nil => rfl
  | cons word words ih =>
    obtain ⟨here, there⟩ := List.forall_mem_cons.mp absent
    rw [loneDieOf?, loneDie?_of_isDieless (isDieless_of_not_mem here), ih there]
    rfl

end Command

namespace Numeral

theorem not_mem_digits (n : Nat) : 'd' ∉ digits n := fun member =>
  absurd (isDigit_of_mem_digits member) (by decide)

theorem not_mem_written (n : Int) : 'd' ∉ written n := by
  rw [written]
  split
  · simp [not_mem_digits]
  · exact not_mem_digits _

end Numeral

namespace DiceTerm

open Command (IsDieless startsKeep loneDie?)

variable (term : DiceTerm)

/-- One twenty-sided die without a keep rule. -/
def isLone : Bool := term.count == 1 && term.sides == 20 && term.keep.isNone

theorem isLone_iff {term : DiceTerm} :
    term.isLone = true ↔ term.count = 1 ∧ term.sides = 20 ∧ term.keep = none := by
  simp [isLone, and_assoc]

theorem text_eq : term.text = Numeral.digits term.count ++ 'd' ::
    (Numeral.digits term.sides ++ (term.modifierText ++ bonusText term.bonus)) := by
  simp [text]

theorem not_mem_bonusText (bonus : Int) : 'd' ∉ bonusText bonus := by
  rw [bonusText]
  split
  · exact List.not_mem_nil
  · rw [Numeral.signed, List.mem_cons, not_or]
    refine ⟨?_, Numeral.not_mem_digits _⟩
    split <;> decide

theorem not_mem_burstText : 'd' ∉ term.burstText := by
  rw [burstText]
  split
  · exact List.not_mem_nil
  · split
    · decide
    · simp [Numeral.not_mem_written]

/-- The `d` of a keep rule is followed by a letter. -/
theorem isDieless_keepText : IsDieless (term.keepText ++ bonusText term.bonus) := by
  have later := Command.isDieless_of_not_mem (not_mem_bonusText term.bonus)
  have drop {c : Char} (letter : c ≠ 'd' ∧ c ≠ '2') (n : Nat) :
      IsDieless ('d' :: c :: (Numeral.digits n ++ bonusText term.bonus)) := by
    refine List.isChain_cons_cons.mpr ⟨fun _ => letter.2, ?_⟩
    have absent : 'd' ∉ c :: Numeral.digits n := by
      simp [letter.1.symm, Numeral.not_mem_digits]
    exact IsDieless.append absent later
  rw [keepText]
  split
  · exact later
  next rule _ =>
    rw [KeepRule.text]
    cases rule.kind with
    | dropLowest => exact drop (by decide) _
    | dropHighest => exact drop (by decide) _
    | keepHighest => exact IsDieless.append (by simp [KeepKind.code, Numeral.not_mem_digits]) later
    | keepLowest => exact IsDieless.append (by simp [KeepKind.code, Numeral.not_mem_digits]) later

theorem isDieless_rest : IsDieless
    (Numeral.digits term.sides ++ (term.modifierText ++ bonusText term.bonus)) := by
  rw [modifierText, List.append_assoc]
  exact IsDieless.append (Numeral.not_mem_digits _)
    (IsDieless.append term.not_mem_burstText term.isDieless_keepText)

/-- What may stand right after the sides: neither a digit nor, but for keep rules, their letters. -/
theorem head_rest : (term.modifierText ++ bonusText term.bonus).head?.any Command.isDigit = false ∧
    startsKeep (term.modifierText ++ bonusText term.bonus) =
      (term.burst.isNone && term.keep.isSome) := by
  rw [modifierText, burstText, keepText]
  cases term.burst with
  | some threshold =>
    have mark (rest : Text) : ('x' :: rest).head?.any Command.isDigit = false :=
      (by decide : Command.isDigit 'x' = false)
    dsimp only
    split
    · exact ⟨mark _, Command.startsKeep_cons (by decide) _⟩
    · exact ⟨mark _, Command.startsKeep_cons (by decide) _⟩
  | none =>
    cases term.keep with
    | some rule =>
      obtain ⟨kind, amount⟩ := rule
      cases kind with
      | dropLowest | dropHighest => exact ⟨(by decide : Command.isDigit 'd' = false), rfl⟩
      | keepHighest | keepLowest => exact ⟨(by decide : Command.isDigit 'k' = false), rfl⟩
    | none =>
      simp only [List.nil_append, bonusText]
      split
      · exact ⟨rfl, rfl⟩
      · rw [Numeral.signed]
        split
        · exact ⟨(by decide : Command.isDigit '-' = false), Command.startsKeep_cons (by decide) _⟩
        · exact ⟨(by decide : Command.isDigit '+' = false), Command.startsKeep_cons (by decide) _⟩

/-- The search finds a lone die in the text of one, at its beginning. -/
theorem loneDie?_text {term : DiceTerm}
    (clear : term.count = 1 → term.sides = 20 → term.burst = none ∨ term.keep = none) :
    loneDie? none term.text =
      if term.isLone then some ([], term.modifierText ++ bonusText term.bonus) else none := by
  obtain ⟨digitless, free⟩ := term.head_rest
  rw [text_eq, Command.loneDie?_of_numerals digitless term.isDieless_rest, free]
  by_cases single : term.count = 1 ∧ term.sides = 20
  · have lone : (term.burst.isNone && term.keep.isSome) = false ↔ term.keep = none := by
      rcases clear single.1 single.2 with none | none <;> simp [none]
    simp only [isLone_iff, lone, single, true_and]
  · simp only [isLone_iff]
    rw [if_neg fun found => single ⟨found.1, found.2.1⟩,
      if_neg fun found => single ⟨found.1, found.2.1⟩]

end DiceTerm

/-! ### Words of marks -/

namespace Text

/-- A word of the characters of well-formed notation. -/
def IsMarked (word : Text) : Prop := word ≠ [] ∧ ∀ c ∈ word, isMark c = true

namespace IsMarked

variable {word : Text}

theorem isWord (marked : IsMarked word) : isWord word = true :=
  isWord_iff.mpr ⟨marked.1, fun c member => isBlank_of_mark (marked.2 c member)⟩

theorem lower_eq (marked : IsMarked word) : lower word = word := by
  have lowered : ∀ c ∈ word, isMark c.toLower = true := fun c member => by
    rw [toLower_of_mark (marked.2 c member)]
    exact marked.2 c member
  rw [lower, lowerFrom_of_marks [] word lowered, map_toLower_of_marks marked.2]

/-- No flag is made of them. -/
theorem isFlag_eq (marked : IsMarked word) : Command.isFlag word = false := by
  rw [Bool.eq_false_iff]
  intro flag
  have letter : 'a' ∈ word := by
    rw [Command.isFlag, Bool.or_eq_true, beq_iff_eq, beq_iff_eq] at flag
    rcases flag with rfl | rfl <;> decide
  exact absurd (marked.2 'a' letter) (by decide)

end IsMarked

end Text

/-! ### The words of the terms -/

namespace Term

/-- The sign of a later term. -/
def sign : Term → Char
  | .dice _ => '+'
  | .flat term => if term.value < 0 then '-' else '+'

/-- A later term without its sign. -/
def body : Term → Text
  | .dice term => term.text
  | .flat term => Numeral.digits term.value.natAbs

theorem following_eq (term : Term) : term.following = term.sign :: ' ' :: term.body := by
  cases term <;> rfl

end Term

def followingWords (terms : List Term) : List Text :=
  terms.flatMap fun term => [[term.sign], term.body]

def formulaWords : List Term → List Text
  | [] => []
  | first :: rest => first.opening :: followingWords rest

theorem joined_followingWords (word : Text) (terms : List Term) :
    Text.joined [' '] (word :: followingWords terms) =
      word ++ terms.flatMap fun term => ' ' :: term.following := by
  induction terms generalizing word with
  | nil => exact (List.append_nil word).symm
  | cons term terms ih =>
    have step : Text.joined [' '] (word :: followingWords (term :: terms)) =
        word ++ [' '] ++ ([term.sign] ++ [' '] ++
          Text.joined [' '] (term.body :: followingWords terms)) := rfl
    rw [step, ih, List.flatMap_cons, term.following_eq]
    simp

/-- The words of a formula stand one blank apart. -/
theorem formula_eq_joined (terms : List Term) :
    formula terms = Text.joined [' '] (formulaWords terms) := by
  cases terms with
  | nil => rfl
  | cons first rest => exact (joined_followingWords first.opening rest).symm

namespace Notation

variable {limits : Limits}

theorem isMarked_copy {term : DiceTerm} {written : WrittenDice}
    (copies : Copies limits written term) : Text.IsMarked term.text := by
  refine ⟨?_, ?_⟩
  · simp [DiceTerm.text]
  · rw [← copies.text]
    exact written.marks

theorem isMarked_digits (n : Nat) : Text.IsMarked (Numeral.digits n) :=
  ⟨Numeral.digits_ne_nil n, fun _ => isMark_of_mem_digits⟩

theorem isMarked_opening {term : Term} (wellFormed : term.WellFormed limits) :
    Text.IsMarked term.opening := by
  cases term with
  | dice term =>
    obtain ⟨written, copies⟩ := exists_copy wellFormed
    exact isMarked_copy copies
  | flat term =>
    rw [Term.opening, Numeral.written]
    split
    · refine ⟨List.cons_ne_nil _ _, List.forall_mem_cons.mpr ⟨by decide, ?_⟩⟩
      exact fun _ => isMark_of_mem_digits
    · exact isMarked_digits _

theorem isMarked_sign (term : Term) : Text.IsMarked [term.sign] := by
  refine ⟨List.cons_ne_nil _ _, List.forall_mem_singleton.mpr ?_⟩
  cases term with
  | dice term => exact (by decide : Text.isMark '+' = true)
  | flat term =>
    rw [Term.sign]
    split <;> decide

theorem isMarked_body {term : Term} (wellFormed : term.WellFormed limits) :
    Text.IsMarked term.body := by
  cases term with
  | dice term => exact isMarked_opening wellFormed
  | flat term => exact isMarked_digits _

theorem isMarked_followingWords {terms : List Term}
    (wellFormed : ∀ term ∈ terms, term.WellFormed limits) :
    ∀ word ∈ followingWords terms, Text.IsMarked word := by
  intro word member
  obtain ⟨term, inside, here⟩ := List.mem_flatMap.mp member
  rcases List.mem_pair.mp here with rfl | rfl
  · exact isMarked_sign term
  · exact isMarked_body (wellFormed term inside)

theorem isMarked_formulaWords {terms : List Term}
    (wellFormed : ∀ term ∈ terms, term.WellFormed limits) :
    ∀ word ∈ formulaWords terms, Text.IsMarked word := by
  cases terms with
  | nil => exact List.forall_mem_nil _
  | cons first rest =>
    obtain ⟨here, there⟩ := List.forall_mem_cons.mp wellFormed
    exact List.forall_mem_cons.mpr ⟨isMarked_opening here, isMarked_followingWords there⟩

/-- A rolling command is given a formula as a whole, and its flags apart. -/
theorem orders_formula {terms : List Term} (found : terms ≠ [])
    (wellFormed : ∀ term ∈ terms, term.WellFormed limits) {flags : List Text}
    (flagged : ∀ flag ∈ flags, Command.isFlag flag = true) :
    Command.Orders (Command.spoken .roll (formula terms :: flags))
      ⟨.plain (Command.paired (Command.edge flags) (formula terms)),
        Command.paired (Command.edge flags) (formula terms)⟩ := by
  have marked := isMarked_formulaWords wellFormed
  have lowered : (formulaWords terms).map Text.lower = formulaWords terms := by
    rw [List.map_congr_left fun word member => (marked word member).lower_eq]
    exact List.map_id' _
  have filled : formulaWords terms ≠ [] := by
    obtain ⟨first, rest, rfl⟩ := List.exists_cons_of_ne_nil found
    exact List.cons_ne_nil _ _
  have ordered := Command.orders_roll filled (fun word member => (marked word member).isWord)
    (fun word member => by
      rw [(marked word member).lower_eq]
      exact (marked word member).isFlag_eq) flagged
  rw [lowered, ← formula_eq_joined] at ordered
  refine Command.orders_congr ?_ ordered
  rw [List.flatMap_append, List.flatMap_cons, formula_eq_joined, Text.words_joined]

end Notation

end Tabletop
