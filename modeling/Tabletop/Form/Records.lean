import Tabletop.Event
import Tabletop.Form.Scalar

/-!
# Records as documents

The records of the data model in their outer form (specification, 6 and 10.2): terms, rolls, options
and events read from documents, and rolls and events written as documents. The term of a group is
read but never written.
-/
namespace Tabletop

open Form

def asText (text : Text) : Document := .text (String.ofList text)

namespace KeepRule

def kinds : List KeepKind := [.dropLowest, .dropHighest, .keepHighest, .keepLowest]

def readKind : Reader KeepKind := judging fun
  | .text s =>
    match kinds.find? fun kind => kind.code == s.toList with
    | some kind => .ok kind
    | none => .error .notInEnumeration
  | _ => .error .notInEnumeration

def ofDocument : Reader KeepRule :=
  record fun fields =>
    KeepRule.mk <$> required fields (.word "kind") readKind
      <*> optional fields (.word "n") positive 1

def document (rule : KeepRule) : Document :=
  .object [("kind", asText rule.kind.code), ("n", .integer rule.amount)]

end KeepRule

/-- A fixed word. -/
def literal (word : String) : Reader Unit := judging fun
  | .text s => if s = word then .ok () else .error .notTheLiteral
  | _ => .error .notTheLiteral

def textField : Reader Text := fun value => (text value).map String.toList

namespace DiceTerm

def keepName : FieldName := ⟨"keepDrop", "keep_drop"⟩
def burstName : FieldName := ⟨"explodeThreshold", "explode_threshold"⟩
def bonusName : FieldName := ⟨"flatModifier", "flat_modifier"⟩

def ofDocument : Reader DiceTerm :=
  record fun fields =>
    (fun _ count sides keep burst bonus source => ⟨count, sides, keep, burst, bonus, source⟩)
      <$> optional fields (.word "kind") (literal "dice") ()
      <*> optional fields (.word "count") positive 1
      <*> required fields (.word "sides") positive
      <*> optional fields keepName (nullable KeepRule.ofDocument) none
      <*> optional fields burstName (nullable whole) none
      <*> optional fields bonusName whole 0
      <*> optional fields (.word "source") textField []

end DiceTerm

namespace FlatTerm

def ofDocument : Reader FlatTerm :=
  record fun fields =>
    (fun _ value source => ⟨value, source⟩)
      <$> optional fields (.word "kind") (literal "flat") ()
      <*> required fields (.word "value") whole
      <*> optional fields (.word "source") textField []

end FlatTerm

/-- A record of kind `flat` is a flat term, any other a dice term. -/
def Term.ofDocument : Reader Term := fun value =>
  match value with
  | .object fields =>
    match fields.lookup "kind" with
    | some (.text "flat") => (FlatTerm.ofDocument value).map .flat
    | _ => (DiceTerm.ofDocument value).map .dice
  | _ => (DiceTerm.ofDocument value).map .dice

namespace Die

def ofDocument : Reader Die :=
  record fun fields =>
    Die.mk <$> required fields (.word "result") whole
      <*> required fields (.word "sides") whole
      <*> optional fields (.word "kept") truth true
      <*> optional fields (.word "exploded") truth false

def document (die : Die) : Document :=
  .object [("result", .integer die.result), ("sides", .integer die.sides),
    ("kept", .truth die.kept), ("exploded", .truth die.exploded)]

end Die

namespace DiceGroup

def ofDocument : Reader DiceGroup :=
  record fun fields =>
    DiceGroup.mk <$> optional fields (.word "term") (nullable DiceTerm.ofDocument) none
      <*> required fields (.word "sides") whole
      <*> required fields (.word "count") whole
      <*> required fields (.word "dice") (listOf Die.ofDocument)
      <*> required fields (.word "subtotal") whole

def document (group : DiceGroup) : Document :=
  .object [("sides", .integer group.sides), ("count", .integer group.count),
    ("dice", .list (group.dice.map Die.document)), ("subtotal", .integer group.subtotal)]

end DiceGroup

namespace Roll

def flatSumName : FieldName := ⟨"flatModifierSum", "flat_modifier_sum"⟩

def ofDocument : Reader Roll :=
  record fun fields =>
    Roll.mk <$> required fields (.word "expression") textField
      <*> required fields (.word "groups") (listOf DiceGroup.ofDocument)
      <*> required fields flatSumName whole
      <*> required fields (.word "total") whole
      <*> required fields (.word "formula") textField

def document (spelling : Spelling) (roll : Roll) : Document :=
  .object [("expression", asText roll.expression),
    ("groups", .list (roll.groups.map DiceGroup.document)),
    (flatSumName.spelled spelling, .integer roll.flatSum), ("total", .integer roll.total),
    ("formula", asText roll.formula)]

end Roll

def flavorName : FieldName := ⟨"flavorText", "flavor_text"⟩
def sendName : FieldName := ⟨"sendResult", "send_result"⟩

def RollOptions.ofDocument : Reader RollOptions :=
  record fun fields =>
    RollOptions.mk <$> optional fields sendName truth true
      <*> optional fields flavorName (nullable textField) none
      <*> optional fields (.word "speaker") (nullable object) none

def orNull {α : Type} (write : α → Document) : Option α → Document
  | none => .null
  | some a => write a

namespace Event

/-- The most values inside one another that a speaker's field may hold in an event on its way. -/
def maxDepth : Nat := 254

def ofDocument : Reader Event :=
  record fun fields =>
    Event.mk <$> required fields (.word "result") Roll.ofDocument
      <*> required fields (.word "breakdown") textField
      <*> optional fields flavorName (nullable textField) none
      <*> optional fields (.word "speaker") (nullable object) none
      <*> optional fields (.word "critical") truth false
      <*> optional fields (.word "fumble") truth false

/-- A speaker is written with null for every real that is not finite. -/
def document (spelling : Spelling) (event : Event) : Document :=
  .object [("result", event.roll.document spelling), ("breakdown", asText event.breakdown),
    (flavorName.spelled spelling, orNull asText event.flavor),
    ("speaker", orNull (fun fields => (Document.object fields).finite) event.speaker),
    ("critical", .truth event.critical), ("fumble", .truth event.fumble)]

/-- An event is sent as a document, unless its speaker goes too deep. -/
def sent (event : Event) : Except Fault Document :=
  if (event.speaker.getD []).all fun entry => entry.2.depth ≤ maxDepth then
    .ok (event.document .camel)
  else .error .tooDeep

end Event

end Tabletop
