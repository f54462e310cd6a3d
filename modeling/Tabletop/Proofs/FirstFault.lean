import Tabletop.Proofs.Accounting
import Tabletop.Proofs.AllOrNothing
import Tabletop.Proofs.Drawing

/-!
# The first fault

Reading stops at the first lexeme that has a fault, and which fault that is depends on the lexeme
and the limits alone. Rolling stops at the first dice term that fails, after the terms before it
were rolled. A roll that was made fails in one way only: a sum of it is too long to be sent.
-/
namespace Tabletop

section Outcomes

variable {α β : Type}

/-- The fault of an outcome, if it is one. -/
def faultOf? : Except Fault α → Option Fault
  | .ok _ => none
  | .error fault => some fault

theorem faultOf?_eq_some_iff {outcome : Except Fault α} {fault : Fault} :
    faultOf? outcome = some fault ↔ outcome = .error fault := by
  cases outcome <;> simp [faultOf?]

/-- A second step fails only if the first one does not. -/
theorem faultOf?_bind {first : Except Fault α} {next : α → Except Fault β} {later : Option Fault}
    (each : ∀ a, first = .ok a → faultOf? (next a) = later) :
    faultOf? (first >>= next) = (faultOf? first).or later := by
  cases first with
  | ok a => exact each a rfl
  | error fault => rfl

theorem faultOf?_bind_pure (first : Except Fault α) (change : α → β) :
    faultOf? (first >>= fun a => pure (change a)) = faultOf? first := by
  cases first <;> rfl

theorem findSome?_cons_or (fault? : α → Option β) (first : α) (rest : List α) :
    (first :: rest).findSome? fault? = (fault? first).or (rest.findSome? fault?) := by
  rw [← List.singleton_append, List.findSome?_append, List.findSome?_singleton]

end Outcomes

/-- What is wrong with so many dice of so many sides. -/
def Limits.flaw? (limits : Limits) (count sides : Nat) : Option Notation.Flaw :=
  if count < 1 then some .noDice
  else if sides < 1 then some .noSides
  else if limits.dice < count then some (.tooManyDice count limits.dice)
  else if limits.sides < sides then some (.tooManySides sides limits.sides)
  else none

namespace Notation

/-- Digits that are too many to be read. -/
def overlong? (digits : Text) : Option Fault :=
  if Numeral.maxDigits < digits.length then some (.numeral (.tooLongToRead digits.length)) else none

def Head.fault? (limits : Limits) (expression : Text) (head : Head) : Option Fault :=
  if head.sign = some .minus then some (.ofFlaw .subtracted expression head.text)
  else (overlong? head.count).or ((overlong? head.sides).or
    ((limits.flaw? (amountOf head.count) (Numeral.value head.sides)).map fun flaw =>
      .ofFlaw flaw expression head.text))

/-- Pieces that are ignored are read like others. -/
def Piece.fault? : Piece → Option Fault
  | .keep _ amount => overlong? amount
  | .burst threshold => threshold.bind overlong?
  | .stray _ => none

def Lexeme.fault? (limits : Limits) (expression : Text) : Lexeme → Option Fault
  | .dice head suffix => (head.fault? limits expression).or (suffix.findSome? Piece.fault?)
  | .whole number => overlong? number.digits
  | .stray _ => none

theorem faultOf?_readNumeral (digits : Text) :
    faultOf? (readNumeral digits) = overlong? digits := by
  rw [readNumeral, Numeral.read, overlong?]
  by_cases long : Numeral.maxDigits < digits.length
  · rw [if_pos long, if_pos long]
    rfl
  · rw [if_neg long, if_neg long]
    rfl

theorem faultOf?_readAmount (digits : Text) : faultOf? (readAmount digits) = overlong? digits := by
  rw [readAmount]
  split
  next empty =>
    rw [List.isEmpty_iff.mp empty]
    rfl
  · exact faultOf?_readNumeral digits

theorem faultOf?_read (number : Whole) : faultOf? number.read = overlong? number.digits := by
  rw [Whole.read, faultOf?_bind_pure, faultOf?_readNumeral]

/-- The numbers of a head are looked at once both of them are read. -/
theorem Head.read_eq (limits : Limits) (expression : Text) (head : Head) :
    head.read limits expression =
      if head.sign = some .minus then .error (.ofFlaw .subtracted expression head.text)
      else do
        let count ← readAmount head.count
        let sides ← readNumeral head.sides
        match limits.flaw? count sides with
        | some flaw => .error (.ofFlaw flaw expression head.text)
        | none => return (count, sides) := by
  rw [Head.read]
  split
  · rfl
  congr 1
  funext count
  congr 1
  funext sides
  rw [Limits.flaw?]
  split
  · rfl
  split
  · rfl
  split
  · rfl
  split <;> rfl

theorem faultOf?_readHead (limits : Limits) (expression : Text) (head : Head) :
    faultOf? (head.read limits expression) = head.fault? limits expression := by
  rw [Head.read_eq, Head.fault?]
  split
  · rfl
  rw [faultOf?_bind fun count readCount => ?_, faultOf?_readAmount]
  rw [faultOf?_bind fun sides readSides => ?_, faultOf?_readNumeral]
  rw [← (amountOf_of_readAmount readCount).1, ← (value_of_readNumeral readSides).1]
  cases limits.flaw? count sides <;> rfl

theorem faultOf?_readSuffix (sides : Nat) (keep : Option KeepRule) (burst : Option Int)
    (suffix : List Piece) :
    faultOf? (readSuffix sides keep burst suffix) = suffix.findSome? Piece.fault? := by
  induction suffix generalizing keep burst with
  | nil => rfl
  | cons piece suffix ih =>
    rw [findSome?_cons_or]
    cases piece with
    | keep kind amount =>
      rw [readSuffix, faultOf?_bind fun n read => ?_, faultOf?_readAmount, Piece.fault?]
      split
      · exact ih _ _
      · rw [faultOf?_bind_pure, ih]
    | burst threshold =>
      rw [readSuffix_burst, faultOf?_bind fun n read => ?_, Piece.fault?]
      · cases threshold with
        | none => rfl
        | some digits => exact congrArg (Option.or · _) (faultOf?_readNumeral digits)
      split
      · exact ih _ _
      · rw [faultOf?_bind_pure, ih]
    | stray text => rw [readSuffix, faultOf?_bind_pure, ih, Piece.fault?, Option.none_or]

theorem faultOf?_readDice (limits : Limits) (expression : Text) (head : Head)
    (suffix : List Piece) : faultOf? (readDice limits expression head suffix) =
      (Lexeme.dice head suffix).fault? limits expression := by
  rw [readDice, faultOf?_bind fun counts read => ?_, faultOf?_readHead, Lexeme.fault?]
  rw [faultOf?_bind_pure, faultOf?_readSuffix]

theorem faultOf?_readTerms (limits : Limits) (expression : Text) (list : List Lexeme) :
    faultOf? (readTerms limits expression list) =
      list.findSome? (Lexeme.fault? limits expression) := by
  induction list using readTerms.induct with
  | case1 => rfl
  | case2 text rest ih =>
    rw [readTerms, faultOf?_bind_pure, ih, findSome?_cons_or, Lexeme.fault?, Option.none_or]
  | case3 number rest ih =>
    rw [readTerms, findSome?_cons_or, faultOf?_bind fun value _ => ?_, faultOf?_read]
    · rfl
    rw [faultOf?_bind_pure, ih]
  | case4 head suffix number rest ih =>
    rw [readTerms, findSome?_cons_or, findSome?_cons_or, ← ih,
      faultOf?_bind fun dice _ => ?_, faultOf?_readDice]
    rw [faultOf?_bind fun value _ => ?_, faultOf?_read]
    · rfl
    refine (faultOf?_bind fun others _ => ?_).trans Option.or_none
    dsimp only
    split <;> rfl
  | case5 head suffix rest noWhole ih =>
    rw [readTerms.eq_5 _ _ _ _ _ noWhole, findSome?_cons_or, ← ih,
      faultOf?_bind fun dice _ => ?_, faultOf?_readDice]
    rw [faultOf?_bind_pure]

/-- Text is refused for the first fault of its lexemes, or because nothing is found in it. -/
theorem parse_eq_error_iff {limits : Limits} {raw : Text} {fault : Fault} :
    parse limits raw = .error fault ↔
      (lexemes (normalize raw)).findSome? (Lexeme.fault? limits (normalize raw)) = some fault ∨
      (∃ ignored, readTerms limits (normalize raw) (lexemes (normalize raw)) = .ok ([], ignored)) ∧
        normalize raw ≠ [] ∧
        fault = .unreadable (.nothingFound raw) (normalize raw) (normalize raw) := by
  rw [← faultOf?_readTerms, faultOf?_eq_some_iff, parse, scan]
  cases readTerms limits (normalize raw) (lexemes (normalize raw)) with
  | error other => simp [bind, Except.bind]
  | ok found =>
    obtain ⟨terms, ignored⟩ := found
    cases terms with
    | cons term rest => simp [bind, Except.bind, pure, Except.pure]
    | nil =>
      by_cases blank : normalize raw = []
      · simp [blank, bind, Except.bind, pure, Except.pure]
      · have filled : (normalize raw).isEmpty = false := by simp [blank]
        simp only [bind, Except.bind, pure, Except.pure, List.isEmpty_nil, filled, Bool.not_false,
          Bool.and_self, if_true, reduceCtorEq, false_or]
        exact ⟨fun same => ⟨⟨ignored, rfl⟩, blank, (Except.error.inj same).symm⟩,
          fun refused => congrArg Except.error refused.2.2.symm⟩

end Notation

namespace Rolling

variable {σ α β : Type}

/-- A rolling in two steps fails with the first, or with the second after the first. -/
theorem run_bind_eq_error_iff {rolling : Rolling σ α} {next : α → Rolling σ β} {source after : σ}
    {fault : Fault} :
    (rolling >>= next).run.run source = (.error fault, after) ↔
      rolling.run.run source = (.error fault, after) ∨
      ∃ a between, rolling.run.run source = (.ok a, between) ∧
        (next a).run.run between = (.error fault, after) := by
  constructor
  · intro failed
    cases ran : rolling.run.run source with
    | mk found between =>
      rw [run_bind, ran] at failed
      cases found with
      | error other =>
        cases failed
        exact .inl rfl
      | ok a => exact .inr ⟨a, between, rfl, failed⟩
  · rintro (failed | ⟨a, between, ran, failed⟩)
    · rw [run_bind, failed]
    · rw [run_bind, ran]
      exact failed

end Rolling

open Rolling

namespace Roll

variable {σ : Type} [DrawSource σ] {limits : Limits} {raw : Text} {source after : σ} {fault : Fault}

/-- The groups of more terms than one come from the first and then from the rest. -/
theorem run_groupsOf_cons_eq_error_iff {limit : Int} {term : DiceTerm} {rest : List DiceTerm} :
    (groupsOf limit (term :: rest) : Rolling σ (List DiceGroup)).run.run source =
        (.error fault, after) ↔
      (term.evaluate limit : Rolling σ _).run.run source = (.error fault, after) ∨
      ∃ group between, (term.evaluate limit : Rolling σ _).run.run source = (.ok group, between) ∧
        (groupsOf limit rest : Rolling σ _).run.run between = (.error fault, after) := by
  rw [groupsOf, run_bind_eq_error_iff]
  refine or_congr_right (exists_congr fun group => exists_congr fun between =>
    and_congr_right fun _ => ?_)
  rw [run_bind_eq_error_iff]
  refine ⟨fun failed => failed.resolve_right ?_, .inl⟩
  rintro ⟨others, left, _, done⟩
  cases done

/-- The groups fail with the first term that does, after the terms before it were rolled. -/
theorem run_groupsOf_eq_error_iff {limit : Int} {terms : List DiceTerm} :
    (groupsOf limit terms : Rolling σ (List DiceGroup)).run.run source = (.error fault, after) ↔
      ∃ front term rest groups between, terms = front ++ term :: rest ∧
        (groupsOf limit front : Rolling σ _).run.run source = (.ok groups, between) ∧
        (term.evaluate limit : Rolling σ _).run.run between = (.error fault, after) := by
  constructor
  · intro failed
    induction terms generalizing source with
    | nil => cases failed
    | cons term rest ih =>
      rcases run_groupsOf_cons_eq_error_iff.mp failed with here | ⟨group, between, ran, there⟩
      · exact ⟨[], term, rest, [], source, rfl, rfl, here⟩
      · obtain ⟨front, last, others, groups, later, rfl, before, failed⟩ := ih there
        refine ⟨term :: front, last, others, group :: groups, later, rfl, ?_, failed⟩
        rw [groupsOf, run_bind, ran]
        dsimp only
        rw [run_bind, before]
        rfl
  · rintro ⟨front, term, rest, groups, between, rfl, before, failed⟩
    induction front generalizing source groups with
    | nil =>
      cases before
      exact run_groupsOf_cons_eq_error_iff.mpr (.inl failed)
    | cons first front ih =>
      obtain ⟨group, next, ran, before⟩ := run_bind_eq_ok before
      obtain ⟨others, left, before, done⟩ := run_bind_eq_ok before
      cases done
      exact run_groupsOf_cons_eq_error_iff.mpr (.inr ⟨group, next, ran, ih others before⟩)

/-- How the rolling of an expression fails, and what is then left of the source. -/
inductive Failure (limits : Limits) (raw : Text) (source : σ) : Fault → σ → Prop
  | reading {fault : Fault} (unread : Notation.parse limits raw = .error fault) :
    Failure limits raw source fault source
  | nothing {parsed : Parsed} (read : Notation.parse limits raw = .ok parsed)
    (empty : parsed.terms = []) : Failure limits raw source (.nothingToRoll raw) source
  | rolling {parsed : Parsed} {front rest : List DiceTerm} {term : DiceTerm}
    {groups : List DiceGroup} {between after : σ} {fault : Fault}
    (read : Notation.parse limits raw = .ok parsed)
    (place : parsed.diceTerms = front ++ term :: rest)
    (before : (groupsOf limits.bursts front : Rolling σ _).run.run source = (.ok groups, between))
    (failed : (term.evaluate limits.bursts : Rolling σ _).run.run between = (.error fault, after)) :
    Failure limits raw source (fault.within parsed.expression) after

theorem run_ofParsed_eq_error_iff {parsed : Parsed} :
    (ofParsed limits parsed : Rolling σ Roll).run.run source = (.error fault, after) ↔
      ∃ found, (groupsOf limits.bursts parsed.diceTerms : Rolling σ _).run.run source =
        (.error found, after) ∧ fault = found.within parsed.expression := by
  rw [ofParsed, run_bind, run_adapt]
  generalize (groupsOf limits.bursts parsed.diceTerms : Rolling σ _).run.run source = outcome
  obtain ⟨found, left⟩ := outcome
  cases found with
  | ok groups =>
    constructor
    · intro failed
      cases failed
    · rintro ⟨found, failed, _⟩
      cases failed
  | error other =>
    constructor
    · intro failed
      cases failed
      exact ⟨other, rfl, rfl⟩
    · rintro ⟨found, failed, rfl⟩
      cases failed
      rfl

theorem run_ofExpression_eq_error_iff :
    (ofExpression limits raw : Rolling σ Roll).run.run source = (.error fault, after) ↔
      Failure limits raw source fault after := by
  constructor
  · intro failed
    cases read : Notation.parse limits raw with
    | error other =>
      rw [ofExpression, read] at failed
      cases failed
      exact .reading read
    | ok parsed =>
      by_cases empty : parsed.terms = []
      · rw [ofExpression, read] at failed
        simp only [empty, List.isEmpty_nil, if_true] at failed
        cases failed
        exact .nothing read empty
      · rw [ofExpression_of_parse read empty, run_ofParsed_eq_error_iff] at failed
        obtain ⟨found, failed, rfl⟩ := failed
        obtain ⟨front, term, rest, groups, between, place, before, failed⟩ :=
          run_groupsOf_eq_error_iff.mp failed
        exact .rolling read place before failed
  · intro failure
    cases failure with
    | reading unread =>
      rw [ofExpression, unread]
      rfl
    | nothing read empty =>
      rw [ofExpression, read]
      simp only [empty, List.isEmpty_nil, if_true]
      rfl
    | @rolling parsed front rest term groups between _ fault read place before failed =>
      have found : parsed.terms ≠ [] := by
        intro empty
        rw [Parsed.diceTerms, empty] at place
        cases front <;> cases place
      rw [ofExpression_of_parse read found, run_ofParsed_eq_error_iff]
      exact ⟨fault, run_groupsOf_eq_error_iff.mpr
        ⟨front, term, rest, groups, between, place, before, failed⟩, rfl⟩

end Roll

/-- Beside the groups only the two sums of a roll are written. -/
theorem RollRequest.isMute_roll {options : RollOptions} {raw : Text} {rolled : Roll}
    (writable : rolled.isWritable = (Numeral.fits rolled.flatSum && Numeral.fits rolled.total)) :
    RollRequest.isMute options (.roll raw) rolled = (options.send && !rolled.isWritable) := by
  rw [isMute, writable]
  cases options.send <;> simp [isCommand]

namespace Room

variable {σ : Type} {place : Nat} {raw : Text} {options : RollOptions} {room : Room σ}

theorem fst_announce {rolled : Roll} : (room.announce options rolled).1 =
    if options.send && !rolled.isWritable then .error (.numeral .tooLongToWrite)
    else .ok rolled := by
  cases send : options.send with
  | false =>
    rw [announce_unsent send]
    rfl
  | true =>
    cases writable : rolled.isWritable with
    | false =>
      rw [announce_mute send writable]
      rfl
    | true =>
      rw [announce_sent send writable]
      rfl

variable [DrawSource σ] {table : Table σ}

/-- A roll that was made is told unless a sum of it is too long to be sent. -/
theorem roll_of_rolled (found : room.table? place = some table) {rolled : Roll} {after : σ}
    (made : outcome table (.plain raw) = (.ok rolled, after)) :
    (room.roll place raw options).1 =
      if RollRequest.isMute options (.roll raw) rolled then .error (.numeral .tooLongToWrite)
      else .ok rolled := by
  rw [← fill_plain, fill_roll found made, fst_announce, send_under,
    RollRequest.isMute_roll (isWritable_of_outcome made)]

/-- A roll fails as its expression does, or because it cannot be sent. -/
theorem roll_eq_error_iff (found : room.table? place = some table) {fault : Fault} :
    (room.roll place raw options).1 = .error fault ↔
      (∃ after, Roll.Failure table.limits raw table.source fault after) ∨
      ∃ rolled after, outcome table (.plain raw) = (.ok rolled, after) ∧
        RollRequest.isMute options (.roll raw) rolled = true ∧
        fault = .numeral .tooLongToWrite := by
  have failure (after : σ) : Roll.Failure table.limits raw table.source fault after ↔
      outcome table (.plain raw) = (.error fault, after) :=
    Roll.run_ofExpression_eq_error_iff.symm
  simp only [failure]
  cases made : outcome table (.plain raw) with
  | mk result after =>
    cases result with
    | error other =>
      rw [← fill_plain, fill_fault found made]
      simp
    | ok rolled =>
      rw [roll_of_rolled found made]
      cases mute : RollRequest.isMute options (.roll raw) rolled with
      | false => simp [mute]
      | true => simp [mute, @eq_comm _ _ fault]

end Room

end Tabletop
