import Tabletop.Proofs.Splicing
import Tabletop.Roll

/-!
# What a breakdown tells

The text of a roll has blanks, signs and digits in its notation, in its faces and in its two sums,
and it leaves out what is empty or zero. It can still be read in one way only. A blank ends a
notation, a bracket ends the faces, and after the faces the character behind the next blank tells
dropped faces from a further term and from the total. Behind a plus a flat sum and a group begin
alike, and only what stands after the number or the notation tells them apart. The text tells
nothing of the expression, nor in which order kept and dropped dice fell.
-/
namespace Tabletop

open Text (isMark joined)

/-- What the text of a group tells. Each face comes with its mark, in roll order. -/
structure GroupReport where
  heading : Text
  kept : List (Int × Bool)
  dropped : List (Int × Bool)
  deriving DecidableEq, Repr

/-- What the text of a roll tells. -/
structure RollReport where
  groups : List GroupReport
  flatSum : Int
  total : Int
  deriving DecidableEq, Repr

def Die.marked (die : Die) : Int × Bool := (die.result, die.exploded)

def DiceGroup.report (group : DiceGroup) : GroupReport :=
  ⟨group.heading, (group.dice.filter fun die => die.kept).map Die.marked,
    (group.dice.filter fun die => !die.kept).map Die.marked⟩

def Roll.report (roll : Roll) : RollReport :=
  ⟨roll.groups.map DiceGroup.report, roll.flatSum, roll.total⟩

/-- Texts that are equal are cut alike by the first character of some sort. -/
theorem Text.append_inj_of_stop {p : Char → Bool} {first second rest tail : Text}
    (one : ∀ c ∈ first, p c = true) (other : ∀ c ∈ second, p c = true)
    (stop : ∀ c ∈ rest.head?, p c = false) (halt : ∀ c ∈ tail.head?, p c = false)
    (same : first ++ rest = second ++ tail) : first = second ∧ rest = tail := by
  have cut := congrArg (List.takeWhile p) same
  rw [Notation.takeWhile_splice stop, Notation.takeWhile_splice halt,
    List.takeWhile_eq_self_iff.mpr one, List.takeWhile_eq_self_iff.mpr other] at cut
  subst cut
  exact ⟨rfl, List.append_cancel_left same⟩

theorem Text.stop_cons {p : Char → Bool} {c : Char} (stop : p c = false) (rest : Text) :
    ∀ a ∈ (c :: rest).head?, p a = false := by
  intro a first
  rw [← Option.some.inj first]
  exact stop

theorem Text.append_cons_inj {p : Char → Bool} {first second rest tail : Text} {c a : Char}
    (one : ∀ c ∈ first, p c = true) (other : ∀ c ∈ second, p c = true) (stop : p c = false)
    (halt : p a = false) (same : first ++ c :: rest = second ++ a :: tail) :
    first = second ∧ c = a ∧ rest = tail := by
  obtain ⟨here, there⟩ :=
    append_inj_of_stop one other (stop_cons stop rest) (stop_cons halt tail) same
  exact ⟨here, List.cons.inj there⟩

theorem Text.joined_cons (mark part : Text) (rest : List Text) :
    joined mark (part :: rest) = part ++ rest.flatMap (mark ++ ·) := by
  induction rest generalizing part with
  | nil => simp [joined]
  | cons next rest ih =>
    rw [joined, ih, List.flatMap_cons, List.append_assoc, List.append_assoc]
    exact List.cons_ne_nil next rest

/-! ### Numbers -/

namespace Numeral

theorem digits_injective : Function.Injective digits :=
  Function.LeftInverse.injective value_digits

theorem marks_digits (n : Nat) : ∀ c ∈ digits n, isMark c = true := fun _ =>
  Notation.isMark_of_mem_digits

theorem marks_written (n : Int) : ∀ c ∈ written n, isMark c = true := by
  have minus : isMark '-' = true := by decide
  rw [written]
  split
  · exact List.forall_mem_cons.mpr ⟨minus, marks_digits _⟩
  · exact marks_digits _

theorem written_injective : Function.Injective written := by
  have unsigned (n m : Nat) : '-' :: digits n ≠ digits m := fun same =>
    absurd (isDigit_of_mem_digits (same ▸ List.mem_cons_self : '-' ∈ digits m)) (by decide)
  intro first second same
  rw [written, written] at same
  split at same <;> split at same
  · have size := digits_injective (List.cons.inj same).2
    omega
  · exact absurd same (unsigned _ _)
  · exact absurd same.symm (unsigned _ _)
  · have size := digits_injective same
    omega

end Numeral

theorem DiceTerm.marks_bonusText (bonus : Int) : ∀ c ∈ bonusText bonus, isMark c = true := by
  have signs : isMark '-' = true ∧ isMark '+' = true := by decide
  rw [bonusText, Numeral.signed]
  split
  · exact List.forall_mem_nil _
  · refine List.forall_mem_cons.mpr ⟨?_, Numeral.marks_digits _⟩
    split
    · exact signs.1
    · exact signs.2

theorem DiceTerm.marks_text (term : DiceTerm) : ∀ c ∈ term.text, isMark c = true := by
  have letters : isMark 'd' = true ∧ isMark 'x' = true ∧ isMark '>' = true := by decide
  have burst : ∀ c ∈ term.burstText, isMark c = true := by
    rw [burstText]
    cases term.burst with
    | none => exact List.forall_mem_nil _
    | some threshold =>
      dsimp only
      split
      · simpa using letters.2.1
      · simpa [letters] using Numeral.marks_written threshold
  have keep : ∀ c ∈ term.keepText, isMark c = true := by
    rw [keepText]
    cases term.keep with
    | none => exact List.forall_mem_nil _
    | some rule =>
      have code : ∀ c ∈ rule.kind.code, isMark c = true := by
        cases rule.kind <;> exact List.all_eq_true.mp (by decide)
      exact List.forall_mem_append.mpr ⟨code, Numeral.marks_digits _⟩
  simp only [text, modifierText, List.forall_mem_append, List.forall_mem_cons]
  exact ⟨⟨⟨Numeral.marks_digits _, letters.1, Numeral.marks_digits _⟩, burst, keep⟩,
    marks_bonusText _⟩

/-- A heading has no blank in it. -/
theorem DiceGroup.marks_heading (group : DiceGroup) :
    ∀ c ∈ group.heading, isMark c = true := by
  have letter : isMark 'd' = true := by decide
  rw [heading]
  cases group.term with
  | some term => exact term.marks_text
  | none =>
    simp only [List.forall_mem_append, List.forall_mem_cons]
    exact ⟨⟨Numeral.marks_written _, letter, Numeral.marks_written _⟩, DiceTerm.marks_bonusText _⟩

/-! ### Faces -/

/-- A face with its mark, as a die shows it. -/
def faceText (face : Int × Bool) : Text :=
  Numeral.written face.1 ++ if face.2 then ['!'] else []

/-- Faces with their marks, as a group shows them. -/
def facesText (faces : List (Int × Bool)) : Text := joined [',', ' '] (faces.map faceText)

theorem DiceGroup.facesText_eq (dice : List Die) :
    DiceGroup.facesText dice = Tabletop.facesText (dice.map Die.marked) := by
  rw [DiceGroup.facesText, Tabletop.facesText, List.map_map]
  rfl

theorem faceText_injective : Function.Injective faceText := by
  have stops (marked : Bool) :
      ∀ c ∈ (if marked then ['!'] else [] : Text).head?, isMark c = false := by
    cases marked with
    | false => exact nofun
    | true => exact Text.stop_cons (by decide) []
  rintro ⟨first, one⟩ ⟨second, other⟩ same
  obtain ⟨number, mark⟩ := Text.append_inj_of_stop (Numeral.marks_written first)
    (Numeral.marks_written second) (stops one) (stops other) same
  cases Numeral.written_injective number
  cases one <;> cases other <;> simp_all

/-- The characters of a face. -/
def isInk (c : Char) : Bool := isMark c || c == '!'

/-- The characters of several faces. -/
def isListed (c : Char) : Bool := isInk c || c == ',' || c == ' '

theorem ink_faceText (face : Int × Bool) : ∀ c ∈ faceText face, isInk c = true := by
  intro c member
  rcases List.mem_append.mp member with number | mark
  · rw [isInk, Numeral.marks_written _ c number, Bool.true_or]
  · cases marked : face.2 <;> simp_all [isInk]

/-- Each face after the first stands behind a comma. -/
def laterFaces (faces : List (Int × Bool)) : Text :=
  faces.flatMap fun face => [',', ' '] ++ faceText face

theorem facesText_cons (face : Int × Bool) (rest : List (Int × Bool)) :
    facesText (face :: rest) = faceText face ++ laterFaces rest := by
  rw [facesText, List.map_cons, Text.joined_cons, List.flatMap_map]
  rfl

theorem stop_laterFaces (faces : List (Int × Bool)) :
    ∀ c ∈ (laterFaces faces).head?, isInk c = false := by
  cases faces with
  | nil => exact nofun
  | cons face rest => exact Text.stop_cons (by decide) _

/-- A comma ends the face before it. -/
theorem faceText_append_inj {face other : Int × Bool} {faces others : List (Int × Bool)}
    (same : faceText face ++ laterFaces faces = faceText other ++ laterFaces others) :
    face = other ∧ laterFaces faces = laterFaces others := by
  obtain ⟨here, there⟩ := Text.append_inj_of_stop (ink_faceText face) (ink_faceText other)
    (stop_laterFaces faces) (stop_laterFaces others) same
  exact ⟨faceText_injective here, there⟩

theorem laterFaces_injective : Function.Injective laterFaces := by
  intro faces
  induction faces with
  | nil =>
    intro others same
    cases others with
    | nil => rfl
    | cons other others => exact nomatch same
  | cons face faces ih =>
    intro others same
    cases others with
    | nil => exact nomatch same
    | cons other others =>
      have rest : faceText face ++ laterFaces faces = faceText other ++ laterFaces others :=
        (List.cons.inj (List.cons.inj same).2).2
      obtain ⟨here, there⟩ := faceText_append_inj rest
      rw [here, ih there]

theorem facesText_injective : Function.Injective facesText := by
  have filled (face : Int × Bool) (rest : List (Int × Bool)) : facesText (face :: rest) ≠ [] := by
    have number : Numeral.written face.1 ≠ [] := by
      rw [Numeral.written]
      split
      · exact List.cons_ne_nil _ _
      · exact Numeral.digits_ne_nil _
    rw [facesText_cons, faceText, List.append_assoc]
    exact List.append_ne_nil_of_left_ne_nil number _
  intro faces others same
  cases faces with
  | nil =>
    cases others with
    | nil => rfl
    | cons other others => exact absurd same.symm (filled other others)
  | cons face faces =>
    cases others with
    | nil => exact absurd same (filled face faces)
    | cons other others =>
      rw [facesText_cons, facesText_cons] at same
      obtain ⟨here, there⟩ := faceText_append_inj same
      rw [here, laterFaces_injective there]

theorem listed_facesText (faces : List (Int × Bool)) :
    ∀ c ∈ facesText faces, isListed c = true := by
  have separator : ∀ c ∈ [',', ' '], isListed c = true := List.all_eq_true.mp (by decide)
  have ink (face : Int × Bool) : ∀ c ∈ faceText face, isListed c = true := by
    intro c member
    rw [isListed, ink_faceText face c member, Bool.true_or, Bool.true_or]
  cases faces with
  | nil => exact List.forall_mem_nil _
  | cons face rest =>
    rw [facesText_cons, List.forall_mem_append]
    refine ⟨ink face, fun c member => ?_⟩
    obtain ⟨later, _, inside⟩ := List.mem_flatMap.mp member
    rcases List.mem_append.mp inside with comma | face
    · exact separator c comma
    · exact ink later c face

/-! ### Groups -/

namespace GroupReport

/-- Dropped faces, if there are any. -/
def droppedText (faces : List (Int × Bool)) : Text :=
  if faces.isEmpty then [] else " (dropped: ".toList ++ facesText faces ++ [')']

def text (report : GroupReport) : Text :=
  report.heading ++ ' ' :: '[' :: (facesText report.kept ++ ']' :: droppedText report.dropped)

/-- The heading is a notation, which has no blank in it. -/
def IsSolid (report : GroupReport) : Prop := ∀ c ∈ report.heading, isMark c = true

/-- What follows a group: a blank, and no dropped faces. -/
def GoesOn (text : Text) : Prop := ∃ c rest, text = ' ' :: c :: rest ∧ c ≠ '('

variable {rest tail : Text}

theorem droppedText_append_inj {faces others : List (Int × Bool)} (goesOn : GoesOn rest)
    (follows : GoesOn tail) (same : droppedText faces ++ rest = droppedText others ++ tail) :
    faces = others ∧ rest = tail := by
  have bracket : isListed ')' = false := by decide
  have opened {c : Char} (text : Text) (other : c ≠ '(') (after : Text) :
      " (dropped: ".toList ++ text ≠ ' ' :: c :: after := fun same =>
    other (List.cons.inj (List.cons.inj same).2).1.symm
  obtain ⟨c, after, rfl, plain⟩ := goesOn
  obtain ⟨a, later, rfl, clear⟩ := follows
  cases faces with
  | nil =>
    cases others with
    | nil => exact ⟨rfl, same⟩
    | cons other others =>
      rw [droppedText, droppedText, List.append_assoc, List.append_assoc] at same
      exact absurd same.symm (opened _ plain _)
  | cons face faces =>
    cases others with
    | nil =>
      rw [droppedText, droppedText, List.append_assoc, List.append_assoc] at same
      exact absurd same (opened _ clear _)
    | cons other others =>
      simp only [droppedText, List.isEmpty_cons, Bool.false_eq_true, if_false,
        List.append_assoc] at same
      obtain ⟨here, _, there⟩ := Text.append_cons_inj (listed_facesText _) (listed_facesText _)
        bracket bracket (List.append_cancel_left same)
      exact ⟨facesText_injective here, there⟩

/-- The text of a group ends where the text after it begins. -/
theorem text_append_inj {one other : GroupReport} (solid : one.IsSolid) (firm : other.IsSolid)
    (goesOn : GoesOn rest) (follows : GoesOn tail)
    (same : one.text ++ rest = other.text ++ tail) : one = other ∧ rest = tail := by
  have blank : isMark ' ' = false := by decide
  have bracket : isListed ']' = false := by decide
  simp only [text, List.append_assoc, List.cons_append] at same
  obtain ⟨heading, _, same⟩ := Text.append_cons_inj solid firm blank blank same
  obtain ⟨kept, _, same⟩ := Text.append_cons_inj (listed_facesText _) (listed_facesText _)
    bracket bracket (List.cons.inj same).2
  obtain ⟨dropped, there⟩ := droppedText_append_inj goesOn follows same
  refine ⟨?_, there⟩
  cases one
  cases other
  cases heading
  cases facesText_injective kept
  cases dropped
  rfl

end GroupReport

theorem DiceGroup.text_eq (group : DiceGroup) : group.text = group.report.text := by
  have dropped : (group.droppedDice.map Die.marked).isEmpty = group.droppedDice.isEmpty :=
    List.isEmpty_map
  have told : group.report = ⟨group.heading, group.keptDice.map Die.marked,
      group.droppedDice.map Die.marked⟩ := rfl
  rw [text, facesText_eq, facesText_eq, GroupReport.text, GroupReport.droppedText, told, dropped]
  simp only [List.append_assoc, List.cons_append, List.nil_append]

/-- A group from outside may hold any numbers, and no die that was kept. -/
example : (DiceGroup.mk none 6 (-1) [⟨-2, 6, false, true⟩, ⟨0, 6, false, false⟩] 3).text =
    "-1d6+3 [] (dropped: -2!, 0)".toList := by decide

theorem DiceGroup.isSolid_report (group : DiceGroup) : group.report.IsSolid := group.marks_heading

theorem DiceGroup.isSolid_reports (groups : List DiceGroup) :
    ∀ report ∈ groups.map DiceGroup.report, report.IsSolid := by
  intro report member
  obtain ⟨group, _, rfl⟩ := List.mem_map.mp member
  exact group.isSolid_report

/-! ### Rolls -/

namespace RollReport

/-- What stands behind the groups. A flat sum of zero is left out. -/
def closing (flatSum total : Int) : Text :=
  let ending := ' ' :: '=' :: ' ' :: Numeral.written total
  if flatSum = 0 then ending
  else ' ' :: (if flatSum < 0 then '-' else '+') :: ' ' ::
    (Numeral.digits flatSum.natAbs ++ ending)

/-- Groups behind a group, and what stands behind them. -/
def following (groups : List GroupReport) (flatSum total : Int) : Text :=
  groups.flatMap (fun group => ' ' :: '+' :: ' ' :: group.text) ++ closing flatSum total

variable {flatSum other total sum : Int}

theorem goesOn_closing (flatSum total : Int) : GroupReport.GoesOn (closing flatSum total) := by
  rw [closing]
  split
  · exact ⟨'=', _, rfl, by decide⟩
  · exact ⟨_, _, rfl, by split <;> decide⟩

theorem goesOn_following (groups : List GroupReport) (flatSum total : Int) :
    GroupReport.GoesOn (following groups flatSum total) := by
  cases groups with
  | nil => exact goesOn_closing flatSum total
  | cons group groups => exact ⟨'+', _, rfl, by decide⟩

theorem closing_injective (same : closing flatSum total = closing other sum) :
    flatSum = other ∧ total = sum := by
  have blank : isMark ' ' = false := by decide
  have signs (n : Int) : '=' ≠ if n < 0 then '-' else '+' := by split <;> decide
  have ending {first second : Text}
      (same : ' ' :: '=' :: ' ' :: first = ' ' :: '=' :: ' ' :: second) : first = second := by
    simpa using same
  simp only [closing] at same
  by_cases one : flatSum = 0 <;> by_cases two : other = 0
  · rw [if_pos one, if_pos two] at same
    exact ⟨one.trans two.symm, Numeral.written_injective (ending same)⟩
  · rw [if_pos one, if_neg two] at same
    exact absurd (List.cons.inj (List.cons.inj same).2).1 (signs other)
  · rw [if_neg one, if_pos two] at same
    exact absurd (List.cons.inj (List.cons.inj same).2).1.symm (signs flatSum)
  · rw [if_neg one, if_neg two] at same
    obtain ⟨sign, same⟩ := List.cons.inj (List.cons.inj same).2
    obtain ⟨size, _, there⟩ := Text.append_cons_inj (Numeral.marks_digits _)
      (Numeral.marks_digits _) blank blank (List.cons.inj same).2
    have size := Numeral.digits_injective size
    have side : flatSum < 0 ↔ other < 0 := by
      split at sign <;> split at sign
      · omega
      · exact absurd sign (by decide)
      · exact absurd sign (by decide)
      · omega
    have total := Numeral.written_injective (List.cons.inj (List.cons.inj there).2).2
    exact ⟨by omega, total⟩

/-- A flat sum with a plus looks like a group up to the blank behind it. -/
theorem closing_ne_following {group : GroupReport} (solid : group.IsSolid)
    (groups : List GroupReport) :
    closing flatSum total ≠ following (group :: groups) other sum := by
  have blank : isMark ' ' = false := by decide
  have begun : following (group :: groups) other sum = ' ' :: '+' :: ' ' ::
      (group.heading ++ ' ' :: '[' :: (facesText group.kept ++
        ']' :: GroupReport.droppedText group.dropped) ++ following groups other sum) := by
    simp [following, GroupReport.text]
  intro same
  rw [closing, begun] at same
  split at same
  · exact absurd (List.cons.inj (List.cons.inj same).2).1 (by decide)
  · obtain ⟨_, same⟩ := List.cons.inj (List.cons.inj same).2
    rw [List.append_assoc] at same
    obtain ⟨_, _, there⟩ := Text.append_cons_inj (Numeral.marks_digits _) solid blank blank
      (List.cons.inj same).2
    exact absurd (List.cons.inj there).1 (by decide)

theorem following_injective {groups others : List GroupReport}
    (solid : ∀ group ∈ groups, group.IsSolid) (firm : ∀ group ∈ others, group.IsSolid)
    (same : following groups flatSum total = following others other sum) :
    groups = others ∧ flatSum = other ∧ total = sum := by
  induction groups generalizing others with
  | nil =>
    cases others with
    | nil => exact ⟨rfl, closing_injective same⟩
    | cons group others =>
      exact absurd same (closing_ne_following (firm group List.mem_cons_self) others)
  | cons group groups ih =>
    cases others with
    | nil => exact absurd same.symm (closing_ne_following (solid group List.mem_cons_self) groups)
    | cons next others =>
      rw [List.forall_mem_cons] at solid firm
      simp only [following, List.flatMap_cons, List.append_assoc, List.cons_append] at same
      obtain ⟨here, there⟩ := GroupReport.text_append_inj solid.1 firm.1
        (goesOn_following groups flatSum total) (goesOn_following others other sum)
        (List.cons.inj (List.cons.inj (List.cons.inj same).2).2).2
      obtain ⟨rest, sums⟩ := ih solid.2 firm.2 there
      exact ⟨congrArg₂ List.cons here rest, sums⟩

end RollReport

namespace Roll

open RollReport (following)

theorem text_of_nil {roll : Roll} (bare : roll.groups = []) :
    roll.text =
      Numeral.written roll.flatSum ++ ' ' :: '=' :: ' ' :: Numeral.written roll.total := by
  rw [text, bare]
  simp [joined]

theorem text_of_cons {roll : Roll} {group : DiceGroup} {rest : List DiceGroup}
    (given : roll.groups = group :: rest) :
    roll.text = group.report.text ++
      following (rest.map DiceGroup.report) roll.flatSum roll.total := by
  have groups : joined [' ', '+', ' '] (roll.groups.map DiceGroup.text) = group.report.text ++
      (rest.map DiceGroup.report).flatMap fun next => ' ' :: '+' :: ' ' :: next.text := by
    rw [given, List.map_cons, Text.joined_cons, group.text_eq, List.flatMap_map, List.flatMap_map]
    simp only [DiceGroup.text_eq]
    rfl
  have filled : group.report.text ≠ [] := by simp [GroupReport.text]
  rw [text, groups, following, RollReport.closing]
  by_cases zero : roll.flatSum = 0 <;> simp [filled, zero]

/-- Without groups the text goes on with an equals sign where a bracket would stand. -/
theorem text_ne_of_nil {bare full : Roll} {group : DiceGroup} {rest : List DiceGroup}
    (none : bare.groups = []) (given : full.groups = group :: rest) : bare.text ≠ full.text := by
  have blank : isMark ' ' = false := by decide
  rw [text_of_nil none, text_of_cons given, GroupReport.text, List.append_assoc]
  intro same
  obtain ⟨_, _, there⟩ := Text.append_cons_inj (Numeral.marks_written _) group.marks_heading
    blank blank same
  exact absurd (List.cons.inj there).1 (by decide)

/-- Rolls with one text tell the same. -/
theorem report_of_text {one other : Roll} (same : one.text = other.text) :
    one.report = other.report := by
  have blank : isMark ' ' = false := by decide
  cases first : one.groups with
  | nil =>
    cases second : other.groups with
    | nil =>
      rw [text_of_nil first, text_of_nil second] at same
      obtain ⟨flat, _, there⟩ := Text.append_cons_inj (Numeral.marks_written _)
        (Numeral.marks_written _) blank blank same
      have total := Numeral.written_injective (List.cons.inj (List.cons.inj there).2).2
      rw [report, report, first, second, Numeral.written_injective flat, total]
    | cons group rest => exact absurd same (text_ne_of_nil first second)
  | cons group rest =>
    cases second : other.groups with
    | nil => exact absurd same.symm (text_ne_of_nil second first)
    | cons next others =>
      rw [text_of_cons first, text_of_cons second] at same
      obtain ⟨here, there⟩ := GroupReport.text_append_inj group.isSolid_report next.isSolid_report
        (RollReport.goesOn_following _ _ _) (RollReport.goesOn_following _ _ _) same
      obtain ⟨groups, flat, total⟩ := RollReport.following_injective
        (DiceGroup.isSolid_reports rest) (DiceGroup.isSolid_reports others) there
      rw [report, report, first, second, List.map_cons, List.map_cons, here, groups, flat, total]

/-- The text of a roll has nothing in it but what it tells. -/
theorem text_of_report {one other : Roll} (same : one.report = other.report) :
    one.text = other.text := by
  have texts (roll : Roll) : roll.groups.map DiceGroup.text =
      roll.report.groups.map GroupReport.text := by
    rw [report, List.map_map]
    exact List.map_congr_left fun group _ => group.text_eq
  have flat : one.flatSum = other.flatSum := congrArg RollReport.flatSum same
  have total : one.total = other.total := congrArg RollReport.total same
  rw [text, text, texts, texts, same, flat, total]

theorem line_eq_ok_iff {roll : Roll} {text : Text} :
    roll.line = .ok text ↔ roll.isWritable = true ∧ roll.text = text := by
  rw [line]
  split <;> simp [*]

/-- A breakdown loses nothing of what it shows. Any two rolls have the same text exactly if they
agree group by group in notation, in the faces kept and in the faces dropped, each with its mark,
and in both sums. The same holds of their lines, as far as these can be written. -/
theorem text_eq_iff_report (one other : Roll) :
    (one.text = other.text ↔ one.report = other.report) ∧
    ((∃ line, one.line = .ok line ∧ other.line = .ok line) ↔
      one.report = other.report ∧ one.isWritable = true ∧ other.isWritable = true) := by
  refine ⟨⟨report_of_text, text_of_report⟩, ?_, ?_⟩
  · rintro ⟨line, first, second⟩
    obtain ⟨writable, rfl⟩ := line_eq_ok_iff.mp first
    obtain ⟨fits, same⟩ := line_eq_ok_iff.mp second
    exact ⟨report_of_text same.symm, writable, fits⟩
  · rintro ⟨same, writable, fits⟩
    exact ⟨one.text, line_eq_ok_iff.mpr ⟨writable, rfl⟩,
      line_eq_ok_iff.mpr ⟨fits, (text_of_report same).symm⟩⟩

end Roll

end Tabletop
