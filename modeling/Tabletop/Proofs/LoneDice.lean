import Tabletop.Proofs.Commands

/-!
# Lone dice in words

The search for a lone twenty-sided die does not look past a blank, so in a command it goes word by
word. What stands in place of the die tells where it stood: two texts that come out the same had
it at the same place.
-/
namespace Tabletop.Command

open Text (after? isWord joined withoutBlanks)

/-- The text before the first lone twenty-sided die, and the text after it. -/
def loneDie? (before : Option Char) : Text → Option (Text × Text)
  | [] => none
  | c :: text =>
    match afterLoneDie? before (c :: text) with
    | some rest => some ([], rest)
    | none => (loneDie? (some c) text).map fun (front, rest) => (c :: front, rest)

/-- The same in words that are to be glued together, each searched on its own. -/
def loneDieOf? : List Text → Option (Text × Text)
  | [] => none
  | word :: words =>
    match loneDie? none word with
    | some (front, rest) => some (front, rest ++ words.flatten)
    | none => (loneDieOf? words).map fun (front, rest) => (word ++ front, rest)

/-- The text with `pair` between the two parts that are left of it. -/
def replaced (pair text : Text) : Option (Text × Text) → Text
  | none => text
  | some (front, rest) => front ++ pair ++ rest

/-- The words glued together, with `pair` in place of their lone die. -/
def rewritten (pair : Text) (words : List Text) : Text :=
  replaced pair words.flatten (loneDieOf? words)

theorem pairedFrom_eq (pair : Text) (before : Option Char) (text : Text) :
    pairedFrom pair before text = replaced pair text (loneDie? before text) := by
  induction text generalizing before with
  | nil => rfl
  | cons c text ih =>
    rw [pairedFrom, loneDie?, ih]
    cases afterLoneDie? before (c :: text) with
    | some rest => rfl
    | none => cases loneDie? (some c) text <;> rfl

section Search

variable {before : Option Char} {text rest : Text}

theorem after?_eq_some_iff {lead : Text} :
    after? lead text = some rest ↔ text = lead ++ rest := by
  induction lead generalizing text with
  | nil => simp [after?, eq_comm]
  | cons a lead ih =>
    cases text with
    | nil => simp [after?]
    | cons c text =>
      rw [after?]
      split
      next same => simp [ih, same]
      next other => simp [Ne.symm other]

/-- A lone die is written with its count or without it. -/
def IsLoneDie (die : Text) : Prop := die = ['d', '2', '0'] ∨ die = ['1', 'd', '2', '0']

/-- A lone die is not preceded by a digit, and neither a digit nor a keep suffix follows it. -/
theorem afterLoneDie?_eq_some_iff : afterLoneDie? before text = some rest ↔
    before.any isDigit = false ∧ (∃ die, IsLoneDie die ∧ text = die ++ rest) ∧
      rest.head?.any isDigit = false ∧ startsKeep rest = false := by
  have taken : after? ['d', '2', '0'] ((after? ['1'] text).getD text) = some rest ↔
      ∃ die, IsLoneDie die ∧ text = die ++ rest := by
    constructor
    · intro read
      rw [after?_eq_some_iff] at read
      cases counted : after? ['1'] text with
      | none =>
        rw [counted] at read
        exact ⟨_, .inl rfl, read⟩
      | some others =>
        rw [counted, Option.getD_some] at read
        rw [after?_eq_some_iff.mp counted, read]
        exact ⟨_, .inr rfl, rfl⟩
    · rintro ⟨die, rfl | rfl, rfl⟩
      · rfl
      · rfl
  rw [afterLoneDie?, ← taken]
  by_cases digit : before.any isDigit = true
  · simp [digit]
  rw [if_neg digit]
  constructor
  · intro found
    obtain ⟨tail, read, found⟩ := Option.bind_eq_some_iff.mp found
    split at found
    · cases found
    next clear =>
      cases found
      rw [Bool.or_eq_true, not_or, Bool.not_eq_true, Bool.not_eq_true] at clear
      exact ⟨Bool.eq_false_iff.mpr digit, read, clear⟩
  · rintro ⟨_, read, digitless, free⟩
    rw [read]
    simp [digitless, free]

theorem text_of_loneDie? {front : Text} (found : loneDie? before text = some (front, rest)) :
    ∃ die, IsLoneDie die ∧ text = front ++ die ++ rest := by
  induction text generalizing before front with
  | nil => cases found
  | cons c text ih =>
    rw [loneDie?] at found
    split at found
    next tail here =>
      cases found
      exact (afterLoneDie?_eq_some_iff.mp here).2.1
    next =>
      obtain ⟨⟨others, tail⟩, there, same⟩ := Option.map_eq_some_iff.mp found
      cases same
      obtain ⟨die, lone, rfl⟩ := ih there
      exact ⟨die, lone, rfl⟩

end Search

section Blanks

theorem after?_append_blank {lead : Text} (solid : ' ' ∉ lead) (text rest : Text) :
    after? lead (text ++ ' ' :: rest) = (after? lead text).map (· ++ ' ' :: rest) := by
  induction lead generalizing text with
  | nil => rfl
  | cons a lead ih =>
    rw [List.mem_cons, not_or] at solid
    cases text with
    | nil => exact if_neg (Ne.symm solid.1)
    | cons c text =>
      rw [List.cons_append, after?, after?]
      split
      · exact ih solid.2 text
      · rfl

theorem startsKeep_append_blank (text rest : Text) :
    startsKeep (text ++ ' ' :: rest) = startsKeep text := by
  match text with
  | [] => cases rest <;> rfl
  | [a] => simp [startsKeep]
  | a :: b :: text => rfl

theorem afterLoneDie?_append_blank (before : Option Char) (text rest : Text) :
    afterLoneDie? before (text ++ ' ' :: rest) =
      (afterLoneDie? before text).map (· ++ ' ' :: rest) := by
  have counted : (after? ['1'] (text ++ ' ' :: rest)).getD (text ++ ' ' :: rest) =
      (after? ['1'] text).getD text ++ ' ' :: rest := by
    rw [after?_append_blank (by decide)]
    cases after? ['1'] text <;> rfl
  have digitless (tail : Text) :
      (tail ++ ' ' :: rest).head?.any isDigit = tail.head?.any isDigit := by
    cases tail with
    | nil => exact (by decide : isDigit ' ' = false)
    | cons c tail => rfl
  rw [afterLoneDie?, afterLoneDie?, counted, after?_append_blank (by decide)]
  split
  · rfl
  · cases after? ['d', '2', '0'] ((after? ['1'] text).getD text) with
    | none => rfl
    | some tail =>
      simp only [Option.map_some, bind, Option.bind, digitless, startsKeep_append_blank]
      split <;> rfl

theorem loneDie?_after_blank (text : Text) : loneDie? (some ' ') text = loneDie? none text := by
  cases text <;> rfl

/-- The search goes on after a blank as at the beginning. -/
theorem loneDie?_append_blank (before : Option Char) (text rest : Text) :
    loneDie? before (text ++ ' ' :: rest) =
      match loneDie? before text with
      | some (front, tail) => some (front, tail ++ ' ' :: rest)
      | none => (loneDie? none rest).map fun (front, tail) => (text ++ ' ' :: front, tail) := by
  induction text generalizing before with
  | nil =>
    have apart : afterLoneDie? before (' ' :: rest) = none := by
      rw [← List.nil_append (' ' :: rest), afterLoneDie?_append_blank]
      cases before <;> simp [afterLoneDie?, after?]
    rw [List.nil_append, loneDie?, loneDie?, apart, loneDie?_after_blank]
    rfl
  | cons c text ih =>
    rw [List.cons_append, loneDie?, loneDie?, ← List.cons_append, afterLoneDie?_append_blank]
    cases afterLoneDie? before (c :: text) with
    | some tail => rfl
    | none =>
      dsimp only [Option.map_none]
      rw [ih]
      cases loneDie? (some c) text with
      | some parts => rfl
      | none => cases loneDie? none rest <;> rfl

theorem withoutBlanks_of_loneDie? {word front rest : Text} (solid : isWord word = true)
    (found : loneDie? none word = some (front, rest)) :
    withoutBlanks front = front ∧ withoutBlanks rest = rest := by
  obtain ⟨die, _, rfl⟩ := text_of_loneDie? found
  obtain ⟨_, blankless⟩ := Text.isWord_iff.mp solid
  rw [List.forall_mem_append, List.forall_mem_append] at blankless
  exact ⟨Text.withoutBlanks_of_blankless blankless.1.1, Text.withoutBlanks_of_blankless blankless.2⟩

/-- Where the words are glued together, the die is the one of the first word that has one. -/
theorem loneDie?_joined {words : List Text} (each : ∀ word ∈ words, isWord word = true) :
    (loneDie? none (joined [' '] words)).map (Prod.map withoutBlanks withoutBlanks) =
      loneDieOf? words := by
  fun_induction joined [' '] words with
  | case1 => rfl
  | case2 word =>
    rw [loneDieOf?]
    cases found : loneDie? none word with
    | none => rfl
    | some parts =>
      obtain ⟨front, tail⟩ := withoutBlanks_of_loneDie? (each word List.mem_cons_self) found
      simp [Prod.map, front, tail]
  | case3 word words _ ih =>
    obtain ⟨here, there⟩ := List.forall_mem_cons.mp each
    rw [List.append_assoc, List.singleton_append, loneDie?_append_blank, loneDieOf?, ← ih there]
    cases found : loneDie? none word with
    | none =>
      cases loneDie? none (joined [' '] words) with
      | none => rfl
      | some parts =>
        simp [Prod.map, Text.withoutBlanks_append, Text.withoutBlanks_cons_blank,
          Text.withoutBlanks_of_isWord here]
    | some parts =>
      obtain ⟨front, tail⟩ := withoutBlanks_of_loneDie? here found
      simp [Prod.map, Text.withoutBlanks_append, Text.withoutBlanks_cons_blank, front, tail,
        Text.withoutBlanks_joined there]

theorem withoutBlanks_pairedFrom {pair : Text} (solid : withoutBlanks pair = pair)
    {words : List Text} (each : ∀ word ∈ words, isWord word = true) :
    withoutBlanks (pairedFrom pair none (joined [' '] words)) =
      rewritten pair words := by
  rw [pairedFrom_eq, rewritten, ← loneDie?_joined each]
  cases loneDie? none (joined [' '] words) with
  | none => exact Text.withoutBlanks_joined each
  | some parts =>
    simp only [replaced, Text.withoutBlanks_append, Option.map_some, Prod.map, solid]

end Blanks

section Words

theorem loneDieOf?_singleton (word : Text) : loneDieOf? [word] = loneDie? none word := by
  rw [loneDieOf?]
  cases loneDie? none word with
  | none => rfl
  | some parts => simp

theorem loneDieOf?_append (first second : List Text) :
    loneDieOf? (first ++ second) =
      match loneDieOf? first with
      | some (front, rest) => some (front, rest ++ second.flatten)
      | none => (loneDieOf? second).map fun (front, rest) => (first.flatten ++ front, rest) := by
  induction first with
  | nil => simp [loneDieOf?]
  | cons word first ih =>
    rw [List.cons_append, loneDieOf?, loneDieOf?, ih]
    cases loneDie? none word with
    | some parts => simp
    | none =>
      cases loneDieOf? first with
      | some parts => rfl
      | none => cases loneDieOf? second <;> simp

variable {pair : Text} {first : List Text}

theorem rewritten_append_of_none (none : loneDieOf? first = none) (second : List Text) :
    rewritten pair (first ++ second) = first.flatten ++ rewritten pair second := by
  rw [rewritten, rewritten, loneDieOf?_append, none]
  cases loneDieOf? second <;> simp [replaced]

theorem rewritten_append_of_some {parts : Text × Text} (found : loneDieOf? first = some parts)
    (second : List Text) :
    rewritten pair (first ++ second) = rewritten pair first ++ second.flatten := by
  rw [rewritten, rewritten, loneDieOf?_append, found]
  simp [replaced]

end Words

section Places

/-- The parts leave out a die. -/
def LeavesOut (text : Text) : Option (Text × Text) → Prop
  | none => True
  | some (front, rest) => ∃ die, IsLoneDie die ∧ text = front ++ die ++ rest

variable {one other : Text} {tail : Text} {first second : Text × Text}

theorem leavesOut_loneDieOf? (words : List Text) :
    LeavesOut words.flatten (loneDieOf? words) := by
  induction words with
  | nil => trivial
  | cons word words ih =>
    rw [loneDieOf?]
    cases found : loneDie? none word with
    | some parts =>
      obtain ⟨die, lone, same⟩ := text_of_loneDie? found
      exact ⟨die, lone, by rw [List.flatten_cons, same, List.append_assoc]⟩
    | none =>
      cases there : loneDieOf? words with
      | none => trivial
      | some parts =>
        rw [there] at ih
        obtain ⟨die, lone, same⟩ := ih
        exact ⟨die, lone, by simp [same]⟩

theorem length_of_isLoneDie {die : Text} (lone : IsLoneDie die) : die.length ≤ 4 := by
  rcases lone with rfl | rfl <;> decide

theorem eq_of_isLoneDie {die other : Text} (lone : IsLoneDie die) (lone' : IsLoneDie other)
    (same : die.length = other.length) : die = other := by
  rcases lone with rfl | rfl
  · rcases lone' with rfl | rfl
    · rfl
    · exact nomatch same
  · rcases lone' with rfl | rfl
    · exact nomatch same
    · rfl

theorem length_replaced_none_ne (long : 4 ≤ tail.length)
    (out : LeavesOut other (some second)) (same : one.length = other.length) :
    one ≠ replaced ('2' :: tail) other (some second) := by
  obtain ⟨die, lone, rfl⟩ := out
  -- The pair is longer than the die that it stands for, and the texts are equally long.
  have short := length_of_isLoneDie lone
  intro equal
  rw [equal] at same
  simp only [replaced, List.length_append, List.length_cons] at same
  omega

/-- Where two texts come out the same, the die of one does not stand before the other's: the pair
begins with a two there, and the other text would have that two instead of its die. -/
theorem not_length_lt_of_replaced (out : LeavesOut one (some first))
    (out' : LeavesOut other (some second))
    (alike : one.map Text.plainSigma = other.map Text.plainSigma)
    (same : replaced ('2' :: tail) one (some first) = replaced ('2' :: tail) other (some second)) :
    ¬first.1.length < second.1.length := by
  intro short
  obtain ⟨die, lone, rfl⟩ := out
  obtain ⟨other, _, rfl⟩ := out'
  have two : second.1[first.1.length]? = some '2' := by
    have here := congrArg (·[first.1.length]?) same
    simpa [replaced, List.getElem?_append_left short] using here.symm
  have there : (second.1 ++ other ++ second.2)[first.1.length]? = some '2' := by
    rw [List.append_assoc, List.getElem?_append_left short, two]
  have here : (first.1 ++ die ++ first.2)[first.1.length]? = (die ++ first.2)[0]? := by
    rw [List.append_assoc, List.getElem?_append_right (Nat.le_refl _), Nat.sub_self]
  have alike := congrArg (·[first.1.length]?) alike
  simp only [List.getElem?_map, there, here, Option.map_some] at alike
  rcases lone with rfl | rfl
  · exact absurd (Option.some.inj alike) (by decide)
  · exact absurd (Option.some.inj alike) (by decide)

theorem replaced_eq_iff {first second : Option (Text × Text)} (long : 4 ≤ tail.length)
    (out : LeavesOut one first) (out' : LeavesOut other second)
    (alike : one.map Text.plainSigma = other.map Text.plainSigma) :
    replaced ('2' :: tail) one first = replaced ('2' :: tail) other second ↔
      one = other ∧ first = second := by
  have lengths : one.length = other.length := by simpa using congrArg List.length alike
  constructor
  · intro same
    cases first with
    | none =>
      cases second with
      | none => exact ⟨same, rfl⟩
      | some second => exact absurd same (length_replaced_none_ne long out' lengths)
    | some first =>
      cases second with
      | none => exact absurd same.symm (length_replaced_none_ne long out lengths.symm)
      | some second =>
        have before := not_length_lt_of_replaced out out' alike same
        have after := not_length_lt_of_replaced out' out alike.symm same.symm
        obtain ⟨die, lone, rfl⟩ := out
        obtain ⟨other, lone', rfl⟩ := out'
        have level : (first.1 ++ '2' :: tail).length = (second.1 ++ '2' :: tail).length := by
          simp only [List.length_append]
          omega
        obtain ⟨fronts, rests⟩ := List.append_inj same level
        have front : first.1 = second.1 := List.append_cancel_right fronts
        have parts : first = second := Prod.ext front rests
        subst parts
        simp only [List.length_append] at lengths
        rw [eq_of_isLoneDie lone lone' (by omega)]
        exact ⟨rfl, rfl⟩
  · rintro ⟨rfl, rfl⟩
    rfl

end Places

end Tabletop.Command
