import Tabletop.Proofs.Endings
import Tabletop.Proofs.FirstFault

/-!
# Limits only reject

Limits are looked at to refuse a number or a burst, and what is not refused does not depend on them.
So whatever is read or rolled within some limits comes out the same within looser ones. Two limits
need not be comparable: both are within their join.
-/
namespace Tabletop

instance : LE Limits where
  le strict loose :=
    strict.dice ≤ loose.dice ∧ strict.sides ≤ loose.sides ∧ strict.bursts ≤ loose.bursts

namespace Limits

instance : DecidableLE Limits := fun _ _ => inferInstanceAs (Decidable (_ ∧ _))

/-- The tightest limits that are as loose as both. -/
def join (one other : Limits) : Limits :=
  ⟨max one.dice other.dice, max one.sides other.sides, max one.bursts other.bursts⟩

theorem le_join_left (one other : Limits) : one ≤ one.join other :=
  ⟨Int.le_max_left .., Int.le_max_left .., Int.le_max_left ..⟩

theorem le_join_right (one other : Limits) : other ≤ one.join other :=
  ⟨Int.le_max_right .., Int.le_max_right .., Int.le_max_right ..⟩

theorem flaw?_eq_none_iff {limits : Limits} {count sides : Nat} :
    limits.flaw? count sides = none ↔
      (1 ≤ count ∧ (count : Int) ≤ limits.dice) ∧ 1 ≤ sides ∧ (sides : Int) ≤ limits.sides := by
  unfold flaw?
  repeat' split
  all_goals simp
  all_goals omega

end Limits

/-- What the first comes to, the second comes to as well. -/
def Loosens {α : Type} (strict loose : Except Fault α) : Prop :=
  ∀ a, strict = .ok a → loose = .ok a

namespace Loosens

variable {α β : Type} {strict loose : Except Fault α}

theorem refl (outcome : Except Fault α) : Loosens outcome outcome := fun _ => id

theorem error (fault : Fault) : Loosens (.error fault) loose := fun _ done => nomatch done

theorem bind {next after : α → Except Fault β} (first : Loosens strict loose)
    (each : ∀ a, Loosens (next a) (after a)) : Loosens (strict >>= next) (loose >>= after) := by
  intro b done
  obtain ⟨a, began, done⟩ := Notation.bind_success done
  rw [first a began]
  exact each a b done

end Loosens

namespace Notation

section Reading

variable {strict loose : Limits} (le : strict ≤ loose)

include le

theorem loosens_readHead (expression : Text) (head : Head) :
    Loosens (head.read strict expression) (head.read loose expression) := by
  rw [Head.read_eq, Head.read_eq]
  split
  · exact .error _
  refine .bind (.refl _) fun count => .bind (.refl _) fun sides => ?_
  cases found : strict.flaw? count sides with
  | some flaw => exact .error _
  | none =>
    rw [Limits.flaw?_eq_none_iff] at found
    have fine : loose.flaw? count sides = none := Limits.flaw?_eq_none_iff.mpr
      ⟨⟨found.1.1, found.1.2.trans le.1⟩, found.2.1, found.2.2.trans le.2.1⟩
    rw [fine]
    exact .refl _

theorem loosens_readDice (expression : Text) (head : Head) (suffix : List Piece) :
    Loosens (readDice strict expression head suffix) (readDice loose expression head suffix) :=
  .bind (loosens_readHead le expression head) fun _ => .refl _

theorem loosens_readTerms (expression : Text) (list : List Lexeme) :
    Loosens (readTerms strict expression list) (readTerms loose expression list) := by
  induction list using readTerms.induct with
  | case1 => exact .refl _
  | case2 text rest ih => exact .bind ih fun _ => .refl _
  | case3 number rest ih => exact .bind (.refl _) fun _ => .bind ih fun _ => .refl _
  | case4 head suffix number rest ih =>
    exact .bind (loosens_readDice le expression head suffix) fun _ =>
      .bind (.refl _) fun _ => .bind ih fun _ => .refl _
  | case5 head suffix rest noWhole ih =>
    rw [readTerms.eq_5 _ _ _ _ _ noWhole, readTerms.eq_5 _ _ _ _ _ noWhole]
    exact .bind (loosens_readDice le expression head suffix) fun _ => .bind ih fun _ => .refl _

theorem loosens_parse (raw : Text) : Loosens (parse strict raw) (parse loose raw) :=
  .bind (.bind (loosens_readTerms le _ _) fun _ => .refl _) fun _ => .refl _

end Reading

/-- Limits decide whether a text is read, and not what it reads as. -/
theorem parse_unique {limits wide : Limits} {raw : Text} {first second : Parsed}
    (one : parse limits raw = .ok first) (other : parse wide raw = .ok second) :
    first = second := by
  have wider := loosens_parse (limits.le_join_left wide) raw first one
  have same := loosens_parse (limits.le_join_right wide) raw second other
  exact Except.ok.inj (wider.symm.trans same)

end Notation

namespace Rolling

variable {σ α β : Type}

/-- Where the first succeeds, the second comes to the same after the same draws. -/
def Loosens (strict loose : Rolling σ α) : Prop :=
  ∀ source a after, strict.run.run source = (.ok a, after) → loose.run.run source = (.ok a, after)

namespace Loosens

variable {strict loose : Rolling σ α}

theorem refl (rolling : Rolling σ α) : Loosens rolling rolling := fun _ _ _ => id

theorem bind {next following : α → Rolling σ β} (first : Loosens strict loose)
    (each : ∀ a, Loosens (next a) (following a)) :
    Loosens (strict >>= next) (loose >>= following) := by
  intro source b after done
  obtain ⟨a, between, began, done⟩ := run_bind_eq_ok done
  rw [run_bind, first source a between began]
  exact each a between b after done

theorem adapt (change : Fault → Fault) (loosens : Loosens strict loose) :
    Loosens (strict.adapt change) (loose.adapt change) := by
  intro source a after done
  rw [run_adapt] at done ⊢
  cases ran : strict.run.run source with
  | mk found left =>
    rw [ran] at done
    cases found with
    | error fault => cases done
    | ok b =>
      cases done
      rw [loosens source _ _ ran]
      rfl

end Loosens

end Rolling

section Rolls

variable {σ : Type} [DrawSource σ]

theorem DiceTerm.loosens_evaluate {limit other : Int} (le : limit ≤ other) (term : DiceTerm) :
    Rolling.Loosens (term.evaluate limit : Rolling σ DiceGroup) (term.evaluate other) := by
  intro source group after done
  obtain ⟨faces, within, rest⟩ := run_evaluate_eq_ok_iff.mp done
  exact run_evaluate_eq_ok_iff.mpr ⟨faces, by omega, rest⟩

namespace Roll

theorem loosens_groupsOf {limit other : Int} (le : limit ≤ other) (terms : List DiceTerm) :
    Rolling.Loosens (groupsOf limit terms : Rolling σ _) (groupsOf other terms) := by
  induction terms with
  | nil => exact .refl _
  | cons term rest ih =>
    exact .bind (term.loosens_evaluate le) fun _ => .bind ih fun _ => .refl _

variable {strict loose limits wide : Limits} {raw : Text} {source after left : σ} {one other : Roll}

/-- An expression that is rolled within limits is rolled the same within looser ones. -/
theorem loosens_ofExpression (le : strict ≤ loose) (raw : Text) :
    Rolling.Loosens (ofExpression strict raw : Rolling σ Roll) (ofExpression loose raw) := by
  intro source roll after made
  cases read : Notation.parse strict raw with
  | error fault =>
    rw [ofExpression, read] at made
    cases made
  | ok parsed =>
    have again := Notation.loosens_parse le raw parsed read
    rw [ofExpression, read] at made
    rw [ofExpression, again]
    by_cases empty : parsed.terms.isEmpty = true
    · simp only [empty, if_true] at made
      cases made
    · simp only [empty, Bool.false_eq_true, if_false] at made ⊢
      have loosens : Rolling.Loosens (ofParsed strict parsed : Rolling σ Roll)
          (ofParsed loose parsed) :=
        .bind (.adapt _ (loosens_groupsOf le.2.2 _)) fun _ => .refl _
      exact loosens source roll after made

/-- Two limits that both allow an expression allow the same roll of it, after the same draws. -/
theorem ofExpression_unique
    (first : (ofExpression limits raw : Rolling σ Roll).run.run source = (.ok one, after))
    (second : (ofExpression wide raw : Rolling σ Roll).run.run source = (.ok other, left)) :
    one = other ∧ after = left := by
  have wider := loosens_ofExpression (limits.le_join_left wide) raw source one after first
  have same := loosens_ofExpression (limits.le_join_right wide) raw source other left second
  cases wider.symm.trans same
  exact ⟨rfl, rfl⟩

end Roll

end Rolls

namespace Room

variable {σ : Type} {room : Room σ} {table : Table σ} {place : Nat} {limits other : Limits}

/-- The room with other limits for a table. -/
def withLimits (place : Nat) (limits : Limits) (room : Room σ) : Room σ :=
  match room.table? place with
  | none => room
  | some table => room.withTable place { table with limits := limits }

theorem withLimits_eq (found : room.table? place = some table) (limits : Limits) :
    room.withLimits place limits = room.withTable place { table with limits := limits } := by
  rw [withLimits, found]

theorem table?_withLimits (found : room.table? place = some table) (limits : Limits) :
    (room.withLimits place limits).table? place = some { table with limits := limits } := by
  rw [withLimits_eq found, table?_withTable found]

theorem withLimits_missing (missing : room.table? place = none) (limits : Limits) :
    room.withLimits place limits = room := by
  rw [withLimits, missing]

theorem withLimits_withLimits (place : Nat) (limits other : Limits) (room : Room σ) :
    (room.withLimits place limits).withLimits place other = room.withLimits place other := by
  cases found : room.table? place with
  | none => rw [withLimits_missing found limits]
  | some table =>
    rw [withLimits_eq (table?_withLimits found limits), withLimits_eq found, withLimits_eq found,
      withTable_withTable]

theorem publish_withLimits (place : Nat) (limits : Limits) (event : Event) (room : Room σ) :
    (room.withLimits place limits).publish event =
      (room.publish event).withLimits place limits := by
  have same : (room.publish event).table? place = room.table? place := rfl
  rw [withLimits, withLimits, same]
  cases room.table? place <;> rfl

/-- What is announced has nothing to do with the limits. -/
theorem announce_withLimits (place : Nat) (limits : Limits) (options : RollOptions) (roll : Roll)
    (room : Room σ) : (room.withLimits place limits).announce options roll =
      ((room.announce options roll).1, (room.announce options roll).2.withLimits place limits) := by
  unfold announce
  split
  · split
    · rw [publish_withLimits]
    · rfl
  · rfl

variable [DrawSource σ] {raw : Text} {options : RollOptions} {roll : Roll}

/-- A roll that was made is remembered and announced within any limits in the same way. -/
theorem roll_withLimits_of_made (found : room.table? place = some table) {source : σ}
    (made : (Roll.ofExpression limits raw : Rolling σ Roll).run.run table.source =
      (.ok roll, source)) :
    (room.withLimits place limits).roll place raw options =
      ((((room.withSource place source).withRoll place roll).announce options roll).1,
        (((room.withSource place source).withRoll place roll).announce options roll).2.withLimits
          place limits) := by
  have here := table?_withLimits found limits
  have rolled : outcome { table with limits := limits } (.plain raw) = (.ok roll, source) := made
  have remembered : (((room.withLimits place limits).withSource place source).withRoll place roll) =
      ((room.withSource place source).withRoll place roll).withLimits place limits := by
    rw [withRoll_withSource here, withRoll_withSource found, withLimits_eq found,
      withTable_withTable, withLimits_eq (table?_withTable found _), withTable_withTable]
  rw [← fill_plain, fill_roll here rolled, remembered, announce_withLimits]
  rfl

theorem made_of_roll (found : room.table? place = some table) {after : Room σ}
    (succeeded : room.roll place raw options = (.ok roll, after)) :
    ∃ source, (Roll.ofExpression table.limits raw : Rolling σ Roll).run.run table.source =
      (.ok roll, source) := by
  cases made : outcome table (.plain raw) with
  | mk result source =>
    cases result with
    | error fault =>
      rw [← fill_plain, fill_fault found made] at succeeded
      cases succeeded
    | ok rolled =>
      have told := congrArg Prod.fst succeeded
      rw [roll_of_rolled found made] at told
      split at told
      · cases told
      · cases told
        exact ⟨source, made⟩

/-- Limits only reject. What succeeds within two limits gives the same roll and leaves the same room
but for the limits, so that the source has been asked for the same dice. And what succeeds within
some limits succeeds within all that are as loose. -/
theorem roll_withLimits {after : Room σ}
    (succeeded : (room.withLimits place limits).roll place raw options = (.ok roll, after))
    (other : Limits) :
    (∀ again later, (room.withLimits place other).roll place raw options = (.ok again, later) →
      again = roll ∧ later = after.withLimits place other) ∧
    (limits ≤ other → (room.withLimits place other).roll place raw options =
      (.ok roll, after.withLimits place other)) := by
  obtain ⟨table, found⟩ : ∃ table, room.table? place = some table := by
    cases missing : room.table? place with
    | some table => exact ⟨table, rfl⟩
    | none =>
      rw [withLimits_missing missing, ← fill_plain, fill_missing missing] at succeeded
      cases succeeded
  obtain ⟨source, made⟩ := made_of_roll (table?_withLimits found limits) succeeded
  have first := succeeded.symm.trans (roll_withLimits_of_made found made)
  obtain ⟨told, left⟩ := Prod.mk.inj first
  -- Within all limits that come to this roll, what is told and left is the same.
  have within {limits : Limits} (again : (Roll.ofExpression limits raw : Rolling σ Roll).run.run
      table.source = (.ok roll, source)) : (room.withLimits place limits).roll place raw options =
        (.ok roll, after.withLimits place limits) := by
    rw [roll_withLimits_of_made found again, ← told, left, withLimits_withLimits]
  constructor
  · intro again later succeeded
    obtain ⟨_, second⟩ := made_of_roll (table?_withLimits found other) succeeded
    obtain ⟨rfl, rfl⟩ := Roll.ofExpression_unique made second
    cases succeeded.symm.trans (within second)
    exact ⟨rfl, rfl⟩
  · intro le
    exact within (Roll.loosens_ofExpression le raw _ _ _ made)

/-! ### A roll with wider limits -/

open Roll (mixedGroups mixedParsed mixedSupply mixedText)

def mixedRoll : Roll := Roll.ofGroups mixedParsed mixedGroups

/-- A room whose only table draws what the mixed expression is to be rolled with. -/
def mixedRoom : Room (Tally Supply) :=
  let room := Room.start ⟨50, ⟨100, 1000, 50⟩, fun _ => .start (mixedSupply 0)⟩
    (Channel.start false)
  (room.create [] none none).2

theorem roll_withLimits_mixedRoom : ∃ after,
    (mixedRoom.withLimits 0 ⟨100, 1000, 50⟩).roll 0 mixedText ⟨false, none, none⟩ =
      (.ok mixedRoll, after) ∧
    (after.table? 0).map (fun table => table.source.calls) = some [6, 6, 6, 4] ∧
    (mixedRoom.withLimits 0 ⟨200, 1000, 60⟩).roll 0 mixedText ⟨false, none, none⟩ =
      (.ok mixedRoll, after.withLimits 0 ⟨200, 1000, 60⟩) := by
  obtain ⟨table, found, source⟩ : ∃ table, mixedRoom.table? 0 = some table ∧
      table.source = .start (mixedSupply 0) := ⟨_, rfl, rfl⟩
  have made := Roll.run_mixedText
  rw [← source] at made
  have succeeded := @roll_withLimits_of_made _ _ _ _ ⟨100, 1000, 50⟩ _ mixedText
    ⟨false, none, none⟩ _ found _ made
  rw [announce_unsent rfl] at succeeded
  refine ⟨_, succeeded, ?_, (roll_withLimits succeeded ⟨200, 1000, 60⟩).2 (by decide)⟩
  rw [withRoll_withSource found, table?_withLimits (table?_withTable found _)]
  rfl

end Room

end Tabletop
