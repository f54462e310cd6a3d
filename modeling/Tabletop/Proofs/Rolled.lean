import Tabletop.Proofs.Digits
import Tabletop.Roll

/-!
# What rolling gives

Every face that is drawn is from one to the sides, and every number in the text of a group can be
written. A fault of the dice themselves is neither one of notation nor of commands. How the dice
are ranked and kept is not looked at here.
-/
namespace Tabletop

/-- What sort of error a fault is to the one who asked. -/
inductive FaultKind where
  | parse | empty | bursts | draw | command | value | overflow
  deriving DecidableEq, Repr

/-- Errors that are found before any dice are drawn. -/
def FaultKind.isEarly : FaultKind → Bool
  | .parse | .empty | .command => true
  | .bursts | .draw | .value | .overflow => false

def Fault.kind : Fault → FaultKind
  | .unreadable .. => .parse
  | .nothingToRoll _ => .empty
  | .burstTooOften .. => .bursts
  | .refusedDraw .. => .draw
  | .notACommand .. | .unknownCommand _ => .command
  | .numeral _ | .capacity _ | .unknownLevel _ | .noTable | .notFinite | .tooDeep => .value
  | .oversized => .overflow

@[simp] theorem Fault.kind_within (expression : Text) (fault : Fault) :
    (fault.within expression).kind = fault.kind := by
  unfold within
  split <;> rfl

def Fault.IsLate (fault : Fault) : Prop := fault.kind.isEarly = false

namespace Rolling

variable {σ α β : Type}

theorem run_pure (a : α) (source : σ) :
    (pure a : Rolling σ α).run.run source = (.ok a, source) := rfl

theorem run_throw (fault : Fault) (source : σ) :
    (throw fault : Rolling σ α).run.run source = (.error fault, source) := rfl

theorem run_bind (rolling : Rolling σ α) (next : α → Rolling σ β) (source : σ) :
    (rolling >>= next).run.run source =
      match (rolling.run.run source).1 with
      | .ok a => (next a).run.run (rolling.run.run source).2
      | .error fault => (.error fault, (rolling.run.run source).2) := by
  rw [ExceptT.run_bind, StateT.run_bind]
  simp only [bind]
  split
  next read =>
    rw [read]
  next read =>
    rw [read]
    rfl

theorem run_map (change : α → β) (rolling : Rolling σ α) (source : σ) :
    (change <$> rolling).run.run source =
      ((rolling.run.run source).1.map change, (rolling.run.run source).2) := by
  rw [map_eq_pure_bind, run_bind]
  cases found : (rolling.run.run source).1 <;> rfl

theorem run_adapt (rolling : Rolling σ α) (change : Fault → Fault) (source : σ) :
    (rolling.adapt change).run.run source =
      ((rolling.run.run source).1.mapError change, (rolling.run.run source).2) := rfl

/-- From every source there is a result that satisfies `result` or a fault that is late. -/
def Ensures (result : α → Prop) (rolling : Rolling σ α) : Prop :=
  ∀ source, match (rolling.run.run source).1 with
    | .ok a => result a
    | .error fault => fault.IsLate

namespace Ensures

variable {result : α → Prop} {outcome : β → Prop} {rolling : Rolling σ α}

theorem pure {a : α} (holds : result a) : Ensures result (Pure.pure a : Rolling σ α) := fun _ =>
  holds

theorem throw {fault : Fault} (late : fault.IsLate) :
    Ensures result (throw fault : Rolling σ α) := fun _ => late

theorem bind {next : α → Rolling σ β} (ensures : Ensures result rolling)
    (each : ∀ a, result a → Ensures outcome (next a)) : Ensures outcome (rolling >>= next) := by
  intro source
  have here := ensures source
  rw [run_bind]
  split at here
  next a found => exact each a here _
  next => exact here

theorem adapt (expression : Text) (ensures : Ensures result rolling) :
    Ensures result (rolling.adapt (Fault.within expression)) := by
  intro source
  have here := ensures source
  rw [run_adapt]
  split at here
  next a found =>
    rw [found]
    exact here
  next fault found =>
    rw [found]
    simpa [Except.mapError, Fault.IsLate] using here

/-- Whatever a source answers may follow. -/
theorem drawing [DrawSource σ] (sides : Nat) {next : Document → Rolling σ β}
    (each : ∀ value, Ensures outcome (next value)) :
    Ensures outcome
      ((modifyGet fun source => DrawSource.draw source sides : Rolling σ Document) >>= next) := by
  intro source
  rw [run_bind]
  exact each _ _

end Ensures

end Rolling

open Rolling

namespace DiceTerm

variable {σ : Type} [DrawSource σ]

theorem isLate_ofRefusedDraw (term : DiceTerm) (value : Document) :
    (Fault.ofRefusedDraw term value).IsLate := by
  rw [Fault.ofRefusedDraw, Fault.worded]
  split <;> rfl

theorem isLate_ofBursts (term : DiceTerm) (limit : Int) : (Fault.ofBursts term limit).IsLate := by
  rw [Fault.ofBursts, Fault.worded]
  split <;> rfl

/-- A side of the die. -/
def IsFace (term : DiceTerm) (face : Int) : Prop := 1 ≤ face ∧ face ≤ term.sides

theorem ensures_face (term : DiceTerm) : Ensures term.IsFace (term.face : Rolling σ Int) := by
  refine Ensures.drawing term.sides fun value => ?_
  split
  · split
    next within => exact Ensures.pure within
    · exact Ensures.throw (isLate_ofRefusedDraw term _)
  · exact Ensures.throw (isLate_ofRefusedDraw term _)

theorem ensures_faces (term : DiceTerm) (n : Nat) :
    Ensures (fun faces => ∀ face ∈ faces, term.IsFace face)
      (term.faces n : Rolling σ (List Int)) := by
  induction n with
  | zero => exact Ensures.pure (List.forall_mem_nil _)
  | succ n ih =>
    refine Ensures.bind term.ensures_face fun face here => ?_
    refine Ensures.bind ih fun rest there => ?_
    exact Ensures.pure (List.forall_mem_cons.mpr ⟨here, there⟩)

theorem ensures_extras (term : DiceTerm) (limit : Int) (done due : Nat) :
    Ensures (fun faces => ∀ face ∈ faces, term.IsFace face)
      (term.extras limit done due : Rolling σ (List Int)) := by
  induction due generalizing done with
  | zero => exact Ensures.pure (List.forall_mem_nil _)
  | succ due ih =>
    rw [extras]
    split
    · exact Ensures.throw (isLate_ofBursts term limit)
    · refine Ensures.bind term.ensures_face fun face here => ?_
      refine Ensures.bind (ih (done + 1)) fun rest there => ?_
      exact Ensures.pure (List.forall_mem_cons.mpr ⟨here, there⟩)

theorem fits_of_isFace {term : DiceTerm} (writable : term.isWritable = true) {face : Int}
    (h : term.IsFace face) : Numeral.fits face = true := by
  have sides : Numeral.fits term.sides = true := by
    simp only [isWritable, numerals, List.all_append, List.all_cons, Bool.and_eq_true] at writable
    exact writable.1.1.2.1
  have bound := Numeral.fits_natCast.mp sides
  obtain ⟨low, high⟩ := h
  rw [Numeral.fits_iff]
  omega

theorem results_groupOf (term : DiceTerm) (faces : List Int) (marks : List Bool) :
    ∀ die ∈ (term.groupOf faces marks).dice, die.result ∈ faces := by
  intro die member
  rw [groupOf, ← List.map_uncurry_zip_eq_zipWith] at member
  obtain ⟨⟨face, flags⟩, inside, rfl⟩ := List.mem_map.mp member
  exact (List.of_mem_zip inside).1

end DiceTerm

/-- Every number in the text of the group can be written. -/
def DiceGroup.isWritable (group : DiceGroup) : Bool := group.numerals.all Numeral.fits

theorem DiceTerm.isWritable_groupOf {term : DiceTerm} (writable : term.isWritable = true)
    {faces : List Int} (within : ∀ face ∈ faces, term.IsFace face) (marks : List Bool) :
    (term.groupOf faces marks).isWritable = true := by
  have heading : (term.groupOf faces marks).term = some term := rfl
  rw [DiceGroup.isWritable, DiceGroup.numerals, heading, List.all_append, Bool.and_eq_true]
  refine ⟨writable, ?_⟩
  rw [List.all_map, List.all_eq_true]
  intro die member
  rw [Function.comp_apply]
  exact fits_of_isFace writable (within _ (term.results_groupOf faces marks die member))

theorem DiceTerm.ensures_evaluate {σ : Type} [DrawSource σ] (term : DiceTerm) (limit : Int) :
    Ensures (fun group => group.isWritable = true) (term.evaluate limit : Rolling σ DiceGroup) := by
  refine Ensures.bind (term.ensures_faces _) fun primary first => ?_
  refine Ensures.bind (term.ensures_extras limit 0 _) fun extra second => ?_
  split
  next writable =>
    exact Ensures.pure (isWritable_groupOf writable (List.forall_mem_append.mpr ⟨first, second⟩) _)
  · exact Ensures.throw rfl

namespace Roll

variable {σ : Type} [DrawSource σ]

theorem ensures_groupsOf (limit : Int) (terms : List DiceTerm) :
    Ensures (fun groups => ∀ group ∈ groups, group.isWritable = true)
      (groupsOf limit terms : Rolling σ (List DiceGroup)) := by
  induction terms with
  | nil => exact Ensures.pure (List.forall_mem_nil _)
  | cons term rest ih =>
    refine Ensures.bind (term.ensures_evaluate limit) fun group here => ?_
    refine Ensures.bind ih fun others there => ?_
    exact Ensures.pure (List.forall_mem_cons.mpr ⟨here, there⟩)

/-- Of a roll whose groups can be written only the two sums may be too long. -/
theorem isWritable_ofGroups (parsed : Parsed) {groups : List DiceGroup}
    (writable : ∀ group ∈ groups, group.isWritable = true) :
    (ofGroups parsed groups).isWritable =
      (Numeral.fits (ofGroups parsed groups).flatSum &&
        Numeral.fits (ofGroups parsed groups).total) := by
  have each : (groups.flatMap DiceGroup.numerals).all Numeral.fits = true := by
    rw [List.all_flatMap, List.all_eq_true]
    exact writable
  have shown : (ofGroups parsed groups).groups = groups := rfl
  rw [isWritable, numerals, shown, List.all_append, each]
  simp

theorem ensures_ofParsed (limits : Limits) (parsed : Parsed) :
    Ensures (fun roll => roll.isWritable = (Numeral.fits roll.flatSum && Numeral.fits roll.total))
      (ofParsed limits parsed : Rolling σ Roll) := by
  refine Ensures.bind ((ensures_groupsOf limits.bursts _).adapt _) fun groups writable => ?_
  exact Ensures.pure (isWritable_ofGroups parsed writable)

/-- An expression that parses to something is rolled as it was parsed. -/
theorem ofExpression_of_parse {limits : Limits} {raw : Text} {parsed : Parsed}
    (h : Notation.parse limits raw = .ok parsed) (found : parsed.terms ≠ []) :
    (ofExpression limits raw : Rolling σ Roll) = ofParsed limits parsed := by
  have filled : parsed.terms.isEmpty = false := by simp [found]
  rw [ofExpression, h]
  simp only [filled, Bool.false_eq_true, if_false]

end Roll

end Tabletop
