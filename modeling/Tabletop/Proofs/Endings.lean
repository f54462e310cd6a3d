import Tabletop.Proofs.Selection

/-!
# How an evaluation ends

What becomes of a dice term is settled by the values that its source has in store. The first value
that is no face of the die ends the evaluation on the spot. The limit on bursts is looked at before
an extra die is drawn, so a term that bursts too often still draws as many extra dice as the limit
allows. The error is the one that fits, unless it has a number to tell that no numeral is short
enough for; such a number leaves a numeral fault in its place and does not change the draws.
-/
namespace Tabletop

namespace DrawSource

variable {σ : Type} [DrawSource σ]

/-- What is left of a source that was asked so often for the same sides. -/
def after (source : σ) (sides : Nat) : Nat → σ
  | 0 => source
  | n + 1 => after (draw source sides).2 sides n

/-- What a source answers after so many questions for the same sides. -/
def answer (source : σ) (sides place : Nat) : Document := (draw (after source sides place) sides).1

theorem after_add (source : σ) (sides m n : Nat) :
    after source sides (m + n) = after (after source sides m) sides n := by
  induction m generalizing source with
  | zero => rw [Nat.zero_add, after]
  | succ m ih => rw [Nat.succ_add, after, after, ih]

theorem answer_after (source : σ) (sides m place : Nat) :
    answer (after source sides m) sides place = answer source sides (m + place) := by
  rw [answer, answer, after_add]

/-- A tally answers as its source does. -/
theorem source_after (tally : Tally σ) (sides n : Nat) :
    (after tally sides n).source = after tally.source sides n := by
  induction n generalizing tally with
  | zero => rfl
  | succ n ih => exact ih _

theorem answer_tally (tally : Tally σ) (sides : Nat) :
    answer tally sides = answer tally.source sides := by
  funext place
  simp only [answer, ← source_after]
  rfl

theorem calls_after (tally : Tally σ) (sides n : Nat) :
    (after tally sides n).calls = tally.calls ++ List.replicate n sides := by
  induction n generalizing tally with
  | zero => simp [after]
  | succ n ih =>
    have here : (draw tally sides).2.calls = tally.calls ++ [sides] := List.reverse_cons
    rw [after, ih, here, List.append_assoc, List.replicate_succ]
    rfl

end DrawSource

open DrawSource (after answer after_add answer_after)

/-- The number that an answer shows, if it shows one. -/
def Document.face : Document → Int
  | .integer n => n
  | _ => 0

namespace DrawSource

variable {σ : Type} [DrawSource σ]

/-- What a source answers to so many questions for the same sides. -/
def answers (source : σ) (sides n : Nat) : List Document :=
  (List.range n).map (answer source sides)

/-- The faces that a source shows in so many draws. -/
def facesOf (source : σ) (sides n : Nat) : List Int := (answers source sides n).map Document.face

@[simp] theorem length_facesOf (source : σ) (sides n : Nat) :
    (facesOf source sides n).length = n := by
  simp [facesOf, answers]

theorem getElem?_facesOf (source : σ) (sides n place : Nat) :
    (facesOf source sides n)[place]? =
      if place < n then some (answer source sides place).face else none := by
  rw [facesOf, answers, List.map_map, List.getElem?_map]
  split <;> simp [*]

theorem facesOf_succ (source : σ) (sides n : Nat) : facesOf source sides (n + 1) =
    (draw source sides).1.face :: facesOf (draw source sides).2 sides n := by
  simp only [facesOf, answers, List.range_succ_eq_map, List.map_cons, List.map_map]
  rfl

theorem facesOf_add (source : σ) (sides m n : Nat) : facesOf source sides (m + n) =
    facesOf source sides m ++ facesOf (after source sides m) sides n := by
  simp only [facesOf, answers, List.range_add, List.map_append, List.map_map]
  congr 1
  refine List.map_congr_left fun place _ => ?_
  simp only [Function.comp_apply, answer_after]

end DrawSource

open DrawSource (facesOf facesOf_succ facesOf_add)

namespace DiceTerm

/-- The value is a face of the die. -/
def accepts (term : DiceTerm) : Document → Bool
  | .integer n => decide (1 ≤ n ∧ n ≤ term.sides)
  | _ => false

/-- The value is an integer that reaches the threshold. -/
def reachedBy (term : DiceTerm) : Document → Bool
  | .integer n => term.bursts n
  | _ => false

/-- The place of the first of so many values that is no face of the die. -/
def firstRefused (term : DiceTerm) (value : Nat → Document) (n : Nat) : Option Nat :=
  (List.range n).find? fun place => !term.accepts (value place)

/-- How many of the primary dice reach the threshold. -/
def burstCount (term : DiceTerm) (value : Nat → Document) : Nat :=
  (List.range term.count).countP fun place => term.reachedBy (value place)

/-- How the evaluation of a term can end. -/
inductive Ending where
  | refused (value : Document)
  | burstTooOften
  | rolled
  deriving Repr

/-- How many extra dice may be drawn. A limit below zero allows as little as zero does. -/
def extraDraws (term : DiceTerm) (limit : Int) (value : Nat → Document) : Nat :=
  min (term.burstCount value) limit.toNat

/-- The ending, and the number of draws until then, as the values decide. -/
def ending (term : DiceTerm) (limit : Int) (value : Nat → Document) : Ending × Nat :=
  match term.firstRefused value term.count with
  | some place => (.refused (value place), place + 1)
  | none =>
    match term.firstRefused (fun place => value (term.count + place))
        (term.extraDraws limit value) with
    | some place => (.refused (value (term.count + place)), term.count + place + 1)
    | none =>
      if limit.toNat < term.burstCount value then
        (.burstTooOften, term.count + term.extraDraws limit value)
      else (.rolled, term.count + term.burstCount value)

/-- The kind of fault that fits, if any. -/
def Ending.kind? : Ending → Option FaultKind
  | .refused _ => some .draw
  | .burstTooOften => some .bursts
  | .rolled => none

/-- Every number that the ending has to tell can be written: those of the message, and those of
the term where it is rolled. -/
def Ending.isTold (term : DiceTerm) (limit : Int) : Ending → Bool
  | .refused value => value.isWritable && Numeral.fits term.sides
  | .burstTooOften => term.isWritable && Numeral.fits limit
  | .rolled => term.isWritable

section Values

variable {term : DiceTerm} {value : Nat → Document} {n : Nat}

theorem firstRefused_succ (term : DiceTerm) (value : Nat → Document) (n : Nat) :
    term.firstRefused value (n + 1) =
      if term.accepts (value 0) then
        (term.firstRefused (fun place => value (place + 1)) n).map (· + 1)
      else some 0 := by
  rw [firstRefused, List.range_succ_eq_map, List.find?_cons, List.find?_map]
  cases term.accepts (value 0) <;> rfl

theorem firstRefused_eq_none_iff :
    term.firstRefused value n = none ↔ ∀ place < n, term.accepts (value place) = true := by
  simp [firstRefused, List.find?_eq_none]

theorem lt_of_firstRefused {place : Nat} (found : term.firstRefused value n = some place) :
    place < n :=
  List.mem_range.mp (List.mem_of_find?_eq_some found)

theorem eq_integer_of_accepts {document : Document} (accepted : term.accepts document = true) :
    document = .integer document.face ∧ term.IsFace document.face := by
  unfold accepts at accepted
  split at accepted
  next n =>
    have within : 1 ≤ n ∧ n ≤ term.sides := of_decide_eq_true accepted
    exact ⟨rfl, within⟩
  next => cases accepted

/-- Where all primary dice are faces, the values burst as the faces do. -/
theorem burstCount_eq {σ : Type} [DrawSource σ] {source : σ}
    (faces : ∀ place < term.count, term.accepts (answer source term.sides place) = true) :
    term.burstCount (answer source term.sides) =
      ((facesOf source term.sides term.count).map term.bursts).count true := by
  rw [burstCount, facesOf, DrawSource.answers, List.map_map, List.map_map, List.count,
    List.countP_map]
  refine List.countP_congr fun place inside => ?_
  obtain ⟨shown, _⟩ := eq_integer_of_accepts (faces place (List.mem_range.mp inside))
  simp only [Function.comp_apply, beq_true]
  rw [shown]
  rfl

theorem burstCount_of_burst_none (plain : term.burst = none) : term.burstCount value = 0 := by
  refine List.countP_eq_zero.mpr fun place _ => ?_
  unfold reachedBy bursts
  rw [plain]
  split <;> simp

theorem burstCount_le (term : DiceTerm) (value : Nat → Document) :
    term.burstCount value ≤ term.count := by
  have bound := List.countP_le_length (l := List.range term.count)
    (p := fun place => term.reachedBy (value place))
  rwa [List.length_range] at bound

end Values

section Endings

variable {term : DiceTerm} {limit : Int} {value : Nat → Document}

/-- If all the values are faces and the limit allows for the bursts, the term is rolled. -/
theorem ending_of_faces
    (faces : ∀ place < term.count + term.burstCount value, term.accepts (value place) = true)
    (within : term.burstCount value ≤ limit.toNat) :
    term.ending limit value = (.rolled, term.count + term.burstCount value) := by
  have primary : term.firstRefused value term.count = none :=
    firstRefused_eq_none_iff.mpr fun place inside => faces place (by omega)
  have extra : term.firstRefused (fun place => value (term.count + place))
      (term.extraDraws limit value) = none :=
    firstRefused_eq_none_iff.mpr fun place inside => faces _ (by
      have few : term.extraDraws limit value ≤ term.burstCount value := Nat.min_le_left _ _
      omega)
  simp only [ending, primary, extra, if_neg (Nat.not_lt.mpr within)]

/-- The four ways in which an evaluation ends. -/
theorem ending_cases (term : DiceTerm) (limit : Int) (value : Nat → Document) :
    (∃ place < term.count, term.ending limit value = (.refused (value place), place + 1)) ∨
    (∃ place < term.extraDraws limit value, term.ending limit value =
      (.refused (value (term.count + place)), term.count + place + 1)) ∨
    (limit.toNat < term.burstCount value ∧ term.ending limit value =
      (.burstTooOften, term.count + term.extraDraws limit value)) ∨
    (∀ place < term.count + term.burstCount value, term.accepts (value place) = true) ∧
      term.burstCount value ≤ limit.toNat ∧
      term.ending limit value = (.rolled, term.count + term.burstCount value) := by
  unfold ending
  split
  next place found => exact .inl ⟨place, lt_of_firstRefused found, rfl⟩
  next primary =>
    split
    next place found => exact .inr (.inl ⟨place, lt_of_firstRefused found, rfl⟩)
    next extra =>
      split
      next excess => exact .inr (.inr (.inl ⟨excess, rfl⟩))
      next within =>
        refine .inr (.inr (.inr ⟨fun place inside => ?_, Nat.not_lt.mp within, rfl⟩))
        rw [extraDraws, Nat.min_eq_left (Nat.not_lt.mp within)] at extra
        rw [firstRefused_eq_none_iff] at primary extra
        by_cases early : place < term.count
        · exact primary place early
        · have later := extra (place - term.count) (by omega)
          rwa [Nat.add_sub_cancel' (Nat.not_lt.mp early)] at later

/-- There are never more draws than there are dice and the limit allows. -/
theorem draws_le (term : DiceTerm) (limit : Int) (value : Nat → Document) :
    (term.ending limit value).2 ≤ term.count + limit.toNat := by
  have allowed : term.extraDraws limit value ≤ limit.toNat := Nat.min_le_right _ _
  rcases term.ending_cases limit value with
    ⟨place, inside, ends⟩ | ⟨place, inside, ends⟩ | ⟨excess, ends⟩ | ⟨faces, within, ends⟩ <;>
  · rw [ends]
    dsimp only
    omega

/-- Only a limit below the number of dice is hit. -/
theorem limit_lt_count (hit : (term.ending limit value).1 = .burstTooOften) :
    limit < term.count := by
  have few := term.burstCount_le value
  rcases term.ending_cases limit value with
    ⟨place, inside, ends⟩ | ⟨place, inside, ends⟩ | ⟨excess, ends⟩ | ⟨faces, within, ends⟩
  · rw [ends] at hit
    cases hit
  · rw [ends] at hit
    cases hit
  · omega
  · rw [ends] at hit
    cases hit

end Endings

section Runs

variable {σ : Type} [DrawSource σ]

theorem face_eq (term : DiceTerm) : (term.face : Rolling σ Int) =
    (modifyGet fun source => DrawSource.draw source term.sides) >>= fun value =>
      if term.accepts value then return value.face
      else throw (Fault.ofRefusedDraw term value) := by
  rw [face]
  congr 1
  funext value
  cases value with
  | integer n => simp [accepts, Document.face]
  | _ => rfl

/-- One value is drawn, whether it is taken or not. -/
theorem run_face (term : DiceTerm) (source : σ) :
    (term.face : Rolling σ Int).run.run source =
      (if term.accepts (answer source term.sides 0) then .ok (answer source term.sides 0).face
        else .error (Fault.ofRefusedDraw term (answer source term.sides 0)),
        after source term.sides 1) := by
  have drawn : ((modifyGet fun source => DrawSource.draw source term.sides :
      Rolling σ Document).run.run source) =
        (.ok (answer source term.sides 0), after source term.sides 1) := rfl
  rw [face_eq, Rolling.run_bind, drawn]
  dsimp only
  split <;> rfl

/-- So many faces are drawn up to the first value that is none. -/
theorem run_faces (term : DiceTerm) (n : Nat) (source : σ) :
    (term.faces n : Rolling σ (List Int)).run.run source =
      match term.firstRefused (answer source term.sides) n with
      | some place => (.error (Fault.ofRefusedDraw term (answer source term.sides place)),
          after source term.sides (place + 1))
      | none => (.ok (facesOf source term.sides n), after source term.sides n) := by
  -- The rest is drawn from the source that the first draw leaves.
  induction n generalizing source with
  | zero => rfl
  | succ n ih =>
    have later : (fun place => answer source term.sides (place + 1)) =
        answer (after source term.sides 1) term.sides := rfl
    rw [faces, Rolling.run_bind, run_face, firstRefused_succ, later]
    cases accepted : term.accepts (answer source term.sides 0) with
    | false => rfl
    | true =>
      simp only [if_true, Rolling.run_bind, ih]
      cases term.firstRefused (answer (after source term.sides 1) term.sides) n with
      | none =>
        rw [facesOf_succ]
        rfl
      | some place => rfl

/-- The extra dice are drawn as far as the limit allows, and only then is the limit a fault. -/
theorem extras_eq (term : DiceTerm) (limit : Int) (done due : Nat) :
    (term.extras limit done due : Rolling σ (List Int)) = do
      let faces ← term.faces (min due (limit - done).toNat)
      if (limit - done).toNat < due then throw (Fault.ofBursts term limit) else return faces := by
  -- With each die one due becomes one done, and what the limit still allows goes down by one.
  induction due generalizing done with
  | zero => simp [extras, faces]
  | succ due ih =>
    rw [extras]
    split
    next spent =>
      have none : (limit - done).toNat = 0 := by omega
      simp [none, faces]
    next left =>
      have one : (limit - done).toNat = (limit - (done + 1 : Nat)).toNat + 1 := by omega
      rw [one, Nat.add_min_add_right, faces, ih]
      simp only [Nat.add_lt_add_iff_right, bind_assoc, pure_bind]
      congr 1
      funext first
      congr 1
      funext rest
      split
      · rfl
      · simp

/-- The group of the faces that a source has in store for the primary dice and their extra dice. -/
def groupFrom (term : DiceTerm) (source : σ) : DiceGroup :=
  let bursts := term.burstCount (answer source term.sides)
  term.groupOf (facesOf source term.sides (term.count + bursts))
    ((facesOf source term.sides term.count).map term.bursts ++ List.replicate bursts false)

/-- What an ending leaves. -/
def Ending.outcome (term : DiceTerm) (limit : Int) (source : σ) : Ending → Except Fault DiceGroup
  | .refused value => .error (Fault.ofRefusedDraw term value)
  | .burstTooOften => .error (Fault.ofBursts term limit)
  | .rolled =>
    if term.isWritable then .ok (term.groupFrom source) else .error (.numeral .tooLongToWrite)

/-- An evaluation is its ending, after the draws of that ending. -/
theorem run_evaluate (term : DiceTerm) (limit : Int) (source : σ) :
    (term.evaluate limit : Rolling σ DiceGroup).run.run source =
      ((term.ending limit (answer source term.sides)).1.outcome term limit source,
        after source term.sides (term.ending limit (answer source term.sides)).2) := by
  rw [evaluate, Rolling.run_bind, run_faces, ending]
  cases primary : term.firstRefused (answer source term.sides) term.count with
  | some place => rfl
  | none =>
    -- From here on the source answers with what comes after the primary dice.
    have counted := burstCount_eq (firstRefused_eq_none_iff.mp primary)
    have later : answer (after source term.sides term.count) term.sides =
        fun place => answer source term.sides (term.count + place) := by
      funext place
      exact answer_after ..
    simp only [extras_eq, Int.sub_zero, Int.natCast_zero, Rolling.run_bind, run_faces, ← counted,
      later]
    have paid : min (term.burstCount (answer source term.sides)) limit.toNat =
        term.extraDraws limit (answer source term.sides) := rfl
    rw [paid]
    cases term.firstRefused (fun place => answer source term.sides (term.count + place))
        (term.extraDraws limit (answer source term.sides)) with
    | some place => simp only [Ending.outcome, ← after_add, Nat.add_assoc]
    | none =>
      by_cases excess : limit.toNat < term.burstCount (answer source term.sides)
      · simp only [excess, if_true, Rolling.run_throw, ← after_add, Ending.outcome]
      · have all : term.extraDraws limit (answer source term.sides) =
            term.burstCount (answer source term.sides) := by omega
        simp only [excess, if_false, Rolling.run_pure, ← after_add, all, Ending.outcome, groupFrom,
          facesOf_add, List.map_const', DrawSource.length_facesOf]
        cases term.isWritable <;> rfl

/-- The evaluation succeeds if all its values are faces, no more dice burst than the limit allows
and the term can be written. The group is then that of the faces. -/
theorem run_evaluate_eq_ok_iff {term : DiceTerm} {limit : Int} {source left : σ}
    {group : DiceGroup} :
    (term.evaluate limit : Rolling σ DiceGroup).run.run source = (.ok group, left) ↔
      (∀ place < term.count + term.burstCount (answer source term.sides),
        term.accepts (answer source term.sides place) = true) ∧
      term.burstCount (answer source term.sides) ≤ limit.toNat ∧
      term.isWritable = true ∧ group = term.groupFrom source ∧
      left = after source term.sides
        (term.count + term.burstCount (answer source term.sides)) := by
  rw [run_evaluate]
  constructor
  · intro succeeded
    rcases term.ending_cases limit (answer source term.sides) with
      ⟨place, inside, ends⟩ | ⟨place, inside, ends⟩ | ⟨excess, ends⟩ | ⟨faces, within, ends⟩
    · rw [ends] at succeeded
      cases succeeded
    · rw [ends] at succeeded
      cases succeeded
    · rw [ends] at succeeded
      cases succeeded
    · rw [ends, Ending.outcome] at succeeded
      split at succeeded
      next writable =>
        cases succeeded
        exact ⟨faces, within, writable, rfl, rfl⟩
      · cases succeeded
  · rintro ⟨faces, within, writable, rfl, rfl⟩
    rw [ending_of_faces faces within, Ending.outcome, if_pos writable]

/-! ### Faults and draws -/

/-- The kind of fault that an outcome is, if it is one. -/
def kindOf? {α : Type} : Except Fault α → Option FaultKind
  | .ok _ => none
  | .error fault => some fault.kind

/-- The evaluation makes so many draws, each of them for the sides of the term, and comes to a fault
of that kind, or to a group where there is none. -/
def Comes (term : DiceTerm) (limit : Int) (source : σ) (kind? : Option FaultKind)
    (draws : Nat) : Prop :=
  let (outcome, tally) :=
    (term.evaluate limit : Rolling (Tally σ) DiceGroup).run.run (.start source)
  kindOf? outcome = kind? ∧ tally.calls = List.replicate draws term.sides

/-- The evaluation ends as the values of its source decide. -/
def EndsAsDrawn (term : DiceTerm) (limit : Int) (source : σ) : Prop :=
  term.Comes limit source (term.ending limit (answer source term.sides)).1.kind?
    (term.ending limit (answer source term.sides)).2

theorem kindOf?_outcome (term : DiceTerm) (limit : Int) (source : σ) (ending : Ending) :
    kindOf? (ending.outcome term limit source) =
      if ending.isTold term limit then ending.kind? else some .value := by
  cases ending with
  | refused value =>
    rw [Ending.outcome, Fault.ofRefusedDraw, Fault.worded, Ending.isTold]
    cases value.isWritable && Numeral.fits term.sides <;> rfl
  | burstTooOften =>
    rw [Ending.outcome, Fault.ofBursts, Fault.worded, Ending.isTold]
    cases term.isWritable && Numeral.fits limit <;> rfl
  | rolled =>
    rw [Ending.outcome, Ending.isTold]
    cases term.isWritable <;> rfl

/-- There is one kind and one number of draws to which the evaluation comes. -/
theorem comes_iff {term : DiceTerm} {limit : Int} {source : σ} {kind? : Option FaultKind}
    {draws : Nat} :
    term.Comes limit source kind? draws ↔
      kind? = (if (term.ending limit (answer source term.sides)).1.isTold term limit then
        (term.ending limit (answer source term.sides)).1.kind? else some .value) ∧
      draws = (term.ending limit (answer source term.sides)).2 := by
  have started : (Tally.start source).calls = [] := rfl
  have same : (Tally.start source).source = source := rfl
  rw [Comes, run_evaluate, DrawSource.answer_tally, same]
  dsimp only
  rw [kindOf?_outcome, DrawSource.calls_after, started, List.nil_append, eq_comm]
  refine and_congr_right fun _ => ?_
  constructor
  · intro equal
    have long := congrArg List.length equal
    rw [List.length_replicate, List.length_replicate] at long
    exact long.symm
  · intro equal
    rw [equal]

theorem Ending.kind?_ne_value (ending : Ending) : ending.kind? ≠ some .value := by
  cases ending <;> exact fun same => nomatch same

/-- An evaluation ends as its values decide exactly if the ending can be told. Where it cannot, a
numeral fault stands for it after the same draws. -/
theorem endsAsDrawn_iff (term : DiceTerm) (limit : Int) (source : σ) :
    (term.EndsAsDrawn limit source ↔
      (term.ending limit (answer source term.sides)).1.isTold term limit = true) ∧
    term.Comes limit source
      (if (term.ending limit (answer source term.sides)).1.isTold term limit then
        (term.ending limit (answer source term.sides)).1.kind? else some .value)
      (term.ending limit (answer source term.sides)).2 ∧
    ∀ kind? draws, term.Comes limit source kind? draws →
      (draws : Int) ≤ term.count + max limit 0 ∧ (kind? = some .bursts → limit < term.count) := by
  refine ⟨?_, comes_iff.mpr ⟨rfl, rfl⟩, fun kind? draws comes => ?_⟩
  · rw [EndsAsDrawn, comes_iff]
    split
    next told => simp [told]
    next untold => simp [untold, Ending.kind?_ne_value]
  · obtain ⟨kind, rfl⟩ := comes_iff.mp comes
    have most := term.draws_le limit (answer source term.sides)
    refine ⟨by omega, ?_⟩
    rintro rfl
    split at kind
    · cases ending : (term.ending limit (answer source term.sides)).1 with
      | burstTooOften => exact limit_lt_count ending
      | _ =>
        rw [ending] at kind
        cases kind
    · cases kind

end Runs

/-- Three dice that all burst, where one extra die is allowed. -/
theorem ending_cappedDice :
    cappedDice.ending 1 (answer Supply.highest cappedDice.sides) = (.burstTooOften, 4) := rfl

theorem endsAsDrawn_cappedDice :
    cappedDice.EndsAsDrawn 1 Supply.highest ∧ cappedDice.Comes 1 Supply.highest (some .bursts) 4 ∧
      (4 : Int) ≤ 3 + max 1 0 ∧ (1 : Int) < 3 := by
  have told : Ending.burstTooOften.isTold cappedDice 1 = true := by
    have one : Numeral.fits 1 = true := Numeral.fits_small (n := 1) (by decide)
    rw [Ending.isTold, isWritable_cappedDice, one]
    rfl
  obtain ⟨ends, comes, bounds⟩ := endsAsDrawn_iff cappedDice 1 Supply.highest
  rw [ending_cappedDice] at ends comes
  dsimp only at ends comes
  rw [if_pos told] at comes
  have bound := bounds _ _ comes
  exact ⟨ends.mpr told, comes, bound.1, bound.2 rfl⟩

/-! ### A value that cannot be told -/

/-- A source that goes beyond the sides is refused at once. -/
theorem ending_beyond {term : DiceTerm} (filled : 1 ≤ term.count) (limit : Int) :
    term.ending limit (answer Supply.beyond term.sides) =
      (.refused (.integer (term.sides + 1)), 1) := by
  have first : answer Supply.beyond term.sides 0 = .integer (term.sides + 1) := rfl
  have refused : term.accepts (.integer (term.sides + 1)) = false := by
    rw [accepts, decide_eq_false_iff_not]
    omega
  obtain ⟨more, counted⟩ : ∃ more, term.count = more + 1 := ⟨term.count - 1, by omega⟩
  simp [ending, counted, firstRefused_succ, first, refused]

/-- A die whose sides can just be written. -/
def longestDie : DiceTerm := ⟨1, 10 ^ Numeral.maxDigits - 1, none, none, 0, []⟩

theorem fits_beyond_longestDie : Numeral.fits (longestDie.sides + 1) = false := by
  have sides : (longestDie.sides : Int) + 1 = (10 ^ Numeral.maxDigits : Nat) :=
    congrArg Nat.cast (Nat.sub_add_cancel (Nat.pow_pos (Nat.succ_pos 9)))
  rw [sides, Bool.eq_false_iff, Ne, Numeral.fits_natCast]
  exact Nat.lt_irrefl _

/-- The value beyond its sides is no face, and the fault does not say so. -/
theorem not_endsAsDrawn_longestDie : ¬longestDie.EndsAsDrawn 50 Supply.beyond := by
  rw [EndsAsDrawn, comes_iff, ending_beyond (Nat.le_refl 1), Ending.isTold, Document.isWritable,
    fits_beyond_longestDie]
  exact fun ends => nomatch ends.1

end DiceTerm

end Tabletop
