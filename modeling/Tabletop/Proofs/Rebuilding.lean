import Tabletop.Form.Records
import Tabletop.Proofs.Drawing
import Tabletop.Proofs.Transcripts

/-!
# Rolls rebuilt from what was written of them

The document of a roll leaves out the terms of its groups. What is rebuilt from it is the same roll
with groups that have no terms, and as far as a term's bonus goes the group itself tells it: a
subtotal is the kept faces and the bonus.
-/
namespace Tabletop

open Form

namespace DiceTerm

/-- The text of the term without its modifier. -/
def plainText (term : DiceTerm) : Text :=
  Numeral.digits term.count ++ 'd' :: Numeral.digits term.sides ++ bonusText term.bonus

theorem text_of_not_hasModifier {term : DiceTerm} (plain : term.hasModifier = false) :
    term.text = term.plainText := by
  simp only [hasModifier, Bool.or_eq_false_iff, Option.isSome_eq_false_iff,
    Option.isNone_iff_eq_none] at plain
  simp [text, plainText, modifierText, burstText, keepText, plain]

end DiceTerm

namespace DiceGroup

def withoutTerm (group : DiceGroup) : DiceGroup := { group with term := none }

/-- The group's text with some other heading. -/
def textUnder (heading : Text) (group : DiceGroup) : Text :=
  heading ++ [' ', '['] ++ facesText group.keptDice ++ [']'] ++
    if group.droppedDice.isEmpty then []
    else " (dropped: ".toList ++ facesText group.droppedDice ++ [')']

theorem text_eq_textUnder (group : DiceGroup) : group.text = group.textUnder group.heading := rfl

/-- The heading without the modifier of the term. -/
def plainHeading (group : DiceGroup) : Text :=
  match group.term with
  | some term => term.plainText
  | none => group.heading

def hasModifier (group : DiceGroup) : Bool := group.term.any DiceTerm.hasModifier

end DiceGroup

namespace Roll

def withoutTerms (roll : Roll) : Roll :=
  { roll with groups := roll.groups.map DiceGroup.withoutTerm }

/-- The roll's text with other headings of its groups. -/
def textUnder (heading : DiceGroup → Text) (roll : Roll) : Text :=
  let groups := Text.joined [' ', '+', ' ']
    (roll.groups.map fun group => group.textUnder (heading group))
  let flat := Numeral.digits roll.flatSum.natAbs
  (if groups.isEmpty then Numeral.written roll.flatSum
    else if roll.flatSum = 0 then groups
    else groups ++ [' ', if roll.flatSum < 0 then '-' else '+', ' '] ++ flat) ++
    [' ', '=', ' '] ++ Numeral.written roll.total

theorem text_eq_textUnder (roll : Roll) : roll.text = roll.textUnder DiceGroup.heading := rfl

end Roll

/-! ### Reading what was written -/

theorem textField_asText (text : Text) : textField (asText text) = .good text :=
  congrArg Form.Checked.good String.toList_ofList

theorem Die.ofDocument_document (die : Die) : Die.ofDocument die.document = .good die := rfl

theorem listOf_map {α β : Type} {read : Reader β} {write : α → Document} {back : α → β}
    (each : ∀ a, read (write a) = .good (back a)) (list : List α) :
    listOf read (.list (list.map write)) = .good (list.map back) := by
  have from_place (place : Nat) :
      itemsFrom read place (list.map write) = .good (list.map back) := by
    induction list generalizing place with
    | nil => rfl
    | cons a rest ih =>
      rw [List.map_cons, itemsFrom, each, ih]
      rfl
  exact from_place 0

/-- A field is read if it is there in the one spelling, and not in the other before it. -/
theorem required_of_lookup {α : Type} {fields : Document.Fields} {name : FieldName}
    {read : Reader α} (spelling : Spelling) {value : Document} {a : α}
    (other : spelling = .snake → fields.lookup name.camel = none)
    (found : fields.lookup (name.spelled spelling) = some value) (good : read value = .good a) :
    required fields name read = .good a := by
  cases spelling with
  | camel =>
    simp only [FieldName.spelled] at found
    simp only [required, field, found, good]
    rfl
  | snake =>
    simp only [FieldName.spelled] at found
    simp only [required, field, other rfl, found, good]
    rfl

theorem DiceGroup.ofDocument_document (group : DiceGroup) :
    DiceGroup.ofDocument group.document = .good group.withoutTerm := by
  have dice : listOf Die.ofDocument (.list (group.dice.map Die.document)) = .good group.dice := by
    rw [listOf_map Die.ofDocument_document, List.map_id']
  rw [ofDocument, document, record, required_of_lookup .camel nofun rfl dice]
  rfl

theorem Roll.ofDocument_document (spelling : Spelling) (roll : Roll) :
    Roll.ofDocument (roll.document spelling) = .good roll.withoutTerms := by
  have groups : listOf DiceGroup.ofDocument (.list (roll.groups.map DiceGroup.document)) =
      .good (roll.groups.map DiceGroup.withoutTerm) :=
    listOf_map DiceGroup.ofDocument_document roll.groups
  have expression := textField_asText roll.expression
  have formula := textField_asText roll.formula
  rw [ofDocument, document, record, required_of_lookup .camel nofun rfl expression,
    required_of_lookup .camel nofun rfl groups]
  cases spelling with
  | camel =>
    rw [required_of_lookup .camel nofun rfl formula]
    rfl
  | snake =>
    rw [required_of_lookup .camel nofun rfl formula]
    rfl

/-! ### What a rolled group tells of its term -/

namespace DiceTerm.Rolled

variable {term : DiceTerm} {group : DiceGroup}

theorem bonus_eq (rolled : term.Rolled group) : group.bonus = term.bonus := by
  rw [DiceGroup.bonus, rolled.subtotal]
  omega

theorem plainHeading_eq (rolled : term.Rolled group) : group.plainHeading = term.plainText := by
  rw [DiceGroup.plainHeading, rolled.origin]

/-- Without its term the group still has the term's text, but for the modifier. -/
theorem heading_withoutTerm (rolled : term.Rolled group) :
    group.withoutTerm.heading = group.plainHeading := by
  have unsigned (n : Nat) : Numeral.written n = Numeral.digits n :=
    if_neg (Int.not_lt.mpr (Int.natCast_nonneg n))
  have bonus : group.withoutTerm.bonus = term.bonus := rolled.bonus_eq
  have count : group.withoutTerm.count = term.count := rolled.count
  have sides : group.withoutTerm.sides = term.sides := rolled.sides
  have bare : group.withoutTerm.term = none := rfl
  rw [rolled.plainHeading_eq, DiceTerm.plainText, DiceGroup.heading, bare]
  simp only [bonus, count, sides, unsigned]

/-- What can be written with the term can be written without it. -/
theorem isWritable_withoutTerm (rolled : term.Rolled group) (writable : group.isWritable = true) :
    group.withoutTerm.isWritable = true := by
  have bonus : group.withoutTerm.bonus = term.bonus := rolled.bonus_eq
  have count : group.withoutTerm.count = term.count := rolled.count
  have sides : group.withoutTerm.sides = term.sides := rolled.sides
  have bare : group.withoutTerm.term = none := rfl
  have dice : group.withoutTerm.dice = group.dice := rfl
  simp only [DiceGroup.isWritable, DiceGroup.numerals, rolled.origin, DiceTerm.numerals, bare,
    bonus, count, sides, dice, List.all_append, List.all_cons, Bool.and_eq_true] at writable ⊢
  exact ⟨writable.1.1.1, writable.2⟩

end DiceTerm.Rolled

namespace Roll

variable {roll : Roll}

theorem shows_withoutTerms (face : Int) (roll : Roll) :
    roll.withoutTerms.shows face = roll.shows face := by
  rw [shows, shows, withoutTerms, List.any_map]
  rfl

theorem text_withoutTerms
    (same : ∀ group ∈ roll.groups, group.withoutTerm.heading = group.plainHeading) :
    roll.withoutTerms.text = roll.textUnder DiceGroup.plainHeading := by
  have texts : roll.withoutTerms.groups.map DiceGroup.text =
      roll.groups.map fun group => group.textUnder group.plainHeading := by
    rw [withoutTerms, List.map_map]
    exact List.map_congr_left fun group member =>
      congrArg (fun heading => group.textUnder heading) (same group member)
  rw [text, texts]
  rfl

theorem textUnder_plainHeading (plain : ∀ group ∈ roll.groups, group.hasModifier = false) :
    roll.textUnder DiceGroup.plainHeading = roll.text := by
  have headings : ∀ group ∈ roll.groups, group.plainHeading = group.heading := by
    intro group member
    have bare := plain group member
    rw [DiceGroup.hasModifier] at bare
    rw [DiceGroup.plainHeading, DiceGroup.heading]
    cases origin : group.term with
    | none => rfl
    | some term =>
      rw [origin] at bare
      exact (DiceTerm.text_of_not_hasModifier bare).symm
  have texts : (roll.groups.map fun group => group.textUnder group.plainHeading) =
      roll.groups.map DiceGroup.text :=
    List.map_congr_left fun group member =>
      congrArg (fun heading => group.textUnder heading) (headings group member)
  rw [textUnder, texts]
  rfl

theorem isWritable_withoutTerms (own : ∀ group ∈ roll.groups, group.isWritable = true)
    (bare : ∀ group ∈ roll.groups, group.withoutTerm.isWritable = true) :
    roll.withoutTerms.isWritable = roll.isWritable := by
  have each : (roll.groups.flatMap DiceGroup.numerals).all Numeral.fits = true := by
    rw [List.all_flatMap, List.all_eq_true]
    exact own
  have others : (roll.withoutTerms.groups.flatMap DiceGroup.numerals).all Numeral.fits = true := by
    rw [withoutTerms, List.all_flatMap, List.all_map, List.all_eq_true]
    exact bare
  rw [isWritable, isWritable, numerals, numerals, List.all_append, List.all_append, each, others]
  rfl

end Roll

/-! ### The document as JSON -/

namespace Document

theorem itemsPlain_map {α : Type} {write : α → Document} (plain : ∀ a, (write a).isPlain = true)
    (list : List α) : itemsPlain (list.map write) = true := by
  induction list with
  | nil => rfl
  | cons a rest ih => rw [List.map_cons, itemsPlain, plain, ih, Bool.and_self]

theorem itemsDepth_map_le {α : Type} {write : α → Document} {bound : Nat}
    (each : ∀ a, (write a).depth ≤ bound) (list : List α) :
    itemsDepth (list.map write) ≤ bound := by
  induction list with
  | nil => exact Nat.zero_le _
  | cons a rest ih => exact Nat.max_le.mpr ⟨each a, ih⟩

end Document

theorem Die.isPlain_document (die : Die) : die.document.isPlain = true := rfl

theorem DiceGroup.isPlain_document (group : DiceGroup) : group.document.isPlain = true := by
  have dice := Document.itemsPlain_map Die.isPlain_document group.dice
  simp [document, Document.isPlain, Document.fieldsPlain, dice]

theorem DiceGroup.depth_document_le (group : DiceGroup) : group.document.depth ≤ 4 := by
  have dice : Document.itemsDepth (group.dice.map Die.document) ≤ 2 :=
    Document.itemsDepth_map_le (fun _ => Nat.le_refl 2) group.dice
  simp only [document, Document.depth, Document.fieldsDepth]
  omega

namespace Roll

theorem isPlain_document (spelling : Spelling) (roll : Roll) :
    (roll.document spelling).isPlain = true := by
  have groups := Document.itemsPlain_map DiceGroup.isPlain_document roll.groups
  cases spelling <;>
    simp [document, asText, flatSumName, FieldName.spelled, Document.isPlain, Document.fieldsPlain,
      groups]

theorem depth_document_le (spelling : Spelling) (roll : Roll) :
    (roll.document spelling).depth ≤ 6 := by
  have groups : Document.itemsDepth (roll.groups.map DiceGroup.document) ≤ 4 :=
    Document.itemsDepth_map_le DiceGroup.depth_document_le roll.groups
  simp only [document, asText, Document.depth, Document.fieldsDepth]
  omega

/-- The document of a roll has a text as JSON if its numbers have numerals. It is read back from
that text, since it is not deep. -/
theorem read_written_document {roll : Roll} {spelling : Spelling}
    (writable : (roll.document spelling).isWritable = true) {levels : Nat} (enough : 6 ≤ levels) :
    Json.read levels (Json.written (roll.document spelling)) = .ok (roll.document spelling) :=
  Json.read_written (roll.isPlain_document spelling) writable
    (Nat.le_trans (roll.depth_document_le spelling) enough)

/-! ### A roll and its document -/

variable {σ : Type} [DrawSource σ]

theorem exists_rolled_of_mem {terms : List DiceTerm} {groups : List DiceGroup}
    (rolls : List.Forall₂ DiceTerm.Rolled terms groups) :
    ∀ group ∈ groups, ∃ term : DiceTerm, term.Rolled group := by
  induction rolls with
  | nil => exact List.forall_mem_nil _
  | cons here _ ih => exact List.forall_mem_cons.mpr ⟨⟨_, here⟩, ih⟩

/-- The groups of a roll that succeeds are what its terms became, and they can be written. -/
theorem groups_of_rolled {limits : Limits} {raw : Text} {source after : σ} {roll : Roll}
    (h : (ofExpression limits raw : Rolling σ Roll).run.run source = (.ok roll, after)) :
    ∀ group ∈ roll.groups, (∃ term : DiceTerm, term.Rolled group) ∧ group.isWritable = true := by
  rw [ofExpression] at h
  split at h
  · cases h
  next parsed read =>
    split at h
    · cases h
    · have wellFormed := Notation.wellFormed_diceTerms read
      have draws := draws_groupsOf (σ := σ) limits.bursts
        (fun term member => (wellFormed term member).amount_pos)
        (fun term member => (wellFormed term member).count_pos)
      have writable :=
        (ensures_groupsOf limits.bursts parsed.diceTerms).adapt parsed.expression source
      obtain ⟨groups, between, rolled, done⟩ := Rolling.run_bind_eq_ok h
      obtain ⟨_, _, _, rolls⟩ := draws.adapt _ _ _ _ rolled
      rw [rolled] at writable
      cases done
      exact fun group member => ⟨exists_rolled_of_mem rolls group member, writable group member⟩

/-- A roll that succeeds is rebuilt from its document in either spelling, but for the terms of its
groups. The groups still tell the bonuses of their terms, the roll is as critical and as much of a
fumble as it was, and its text is the same but for the modifiers. -/
theorem rebuilt_of_rolled {limits : Limits} {raw : Text} {source after : σ} {roll : Roll}
    (h : (ofExpression limits raw : Rolling σ Roll).run.run source = (.ok roll, after))
    (spelling : Spelling) :
    ∃ rebuilt, Roll.ofDocument (roll.document spelling) = .good rebuilt ∧
      rebuilt = { roll with groups := roll.groups.map DiceGroup.withoutTerm } ∧
      (∀ group ∈ roll.groups, ∃ term, group.term = some term ∧
        group.withoutTerm.bonus = term.bonus) ∧
      rebuilt.isCritical = roll.isCritical ∧
      rebuilt.isFumble = roll.isFumble ∧
      rebuilt.text = roll.textUnder DiceGroup.plainHeading ∧
      rebuilt.isWritable = roll.isWritable ∧
      ((∀ group ∈ roll.groups, group.hasModifier = false) → rebuilt.text = roll.text) := by
  have groups := groups_of_rolled h
  have headings : ∀ group ∈ roll.groups, group.withoutTerm.heading = group.plainHeading :=
    fun group member => (groups group member).1.elim fun _ rolled => rolled.heading_withoutTerm
  have text := text_withoutTerms headings
  refine ⟨roll.withoutTerms, ofDocument_document spelling roll, rfl, ?_, shows_withoutTerms 20 roll,
    shows_withoutTerms 1 roll, text, ?_, fun plain => text.trans (textUnder_plainHeading plain)⟩
  · intro group member
    obtain ⟨term, rolled⟩ := (groups group member).1
    exact ⟨term, rolled.origin, rolled.bonus_eq⟩
  · refine isWritable_withoutTerms (fun group member => (groups group member).2) ?_
    intro group member
    obtain ⟨⟨term, rolled⟩, writable⟩ := groups group member
    exact rolled.isWritable_withoutTerm writable

theorem rebuilt_of_rolled_mixedText :
    let roll := ofGroups mixedParsed mixedGroups
    roll.text = "2d6x>5dl1+2 [6!, 3] (dropped: 2) + 1d4 [4] - 4 = 11".toList ∧
    ∃ rebuilt, Roll.ofDocument (roll.document .camel) = .good rebuilt ∧
      rebuilt.text = "2d6+2 [6!, 3] (dropped: 2) + 1d4 [4] - 4 = 11".toList := by
  obtain ⟨rebuilt, read, -, -, -, -, text, -⟩ := rebuilt_of_rolled run_mixedText .camel
  exact ⟨rfl, rebuilt, read, text⟩

end Roll

end Tabletop
