import Tabletop.Proofs.Fragments

/-!
# Numbers that are too long

A roll that fails does so with an error of its own, unless a number with too many digits gets in the
way: a numeral of the text that is read before anything is found wrong with it, a number that the
wording of a fault holds, or a sum of the finished roll. The exact conditions are given for each of
the three. Short text never gets into the first of them.
-/
namespace Tabletop

namespace Notation

/-- More digits than can be read. -/
def isOverlong (digits : Text) : Bool := decide (Numeral.maxDigits < digits.length)

def Piece.isOverlong : Piece → Bool
  | .keep _ amount => Notation.isOverlong amount
  | .burst threshold => threshold.any Notation.isOverlong
  | .stray _ => false

/-- A numeral is too long to be read, or a number that is refused too long to be told. Dice that are
subtracted are refused unread, and others before their suffix is looked at. -/
def Lexeme.isOverlong (limits : Limits) : Lexeme → Bool
  | .dice head suffix =>
    head.sign != some .minus &&
      (Notation.isOverlong head.count || Notation.isOverlong head.sides ||
        match limits.flaw? (amountOf head.count) (Numeral.value head.sides) with
        | some flaw => !flaw.numerals.all Numeral.fits
        | none => suffix.any Piece.isOverlong)
  | .whole number => Notation.isOverlong number.digits
  | .stray _ => false

/-- The first lexeme with a fault is too long. -/
def Overlong (limits : Limits) (text : Text) : Prop :=
  ∃ front lexeme rest, lexemes text = front ++ lexeme :: rest ∧
    (∀ other ∈ front, other.fault? limits text = none) ∧ lexeme.isOverlong limits = true

section Kinds

variable {limits : Limits} {expression : Text}

theorem kind_overlong? (digits : Text) : (overlong? digits).map Fault.kind =
    if isOverlong digits then some .value else none := by
  rw [overlong?, isOverlong]
  by_cases long : Numeral.maxDigits < digits.length <;> simp [long, Fault.kind]

theorem Piece.kind_fault? (piece : Piece) : piece.fault?.map Fault.kind =
    if piece.isOverlong then some .value else none := by
  cases piece with
  | keep kind amount => exact kind_overlong? amount
  | stray text => rfl
  | burst threshold =>
    cases threshold with
    | none => rfl
    | some digits => exact kind_overlong? digits

theorem kind_suffix (suffix : List Piece) : (suffix.findSome? Piece.fault?).map Fault.kind =
    if suffix.any Piece.isOverlong then some .value else none := by
  induction suffix with
  | nil => rfl
  | cons piece suffix ih =>
    rw [findSome?_cons_or, Option.map_or, piece.kind_fault?, ih, List.any_cons]
    cases piece.isOverlong <;> rfl

theorem kind_ofFlaw (flaw : Flaw) (fragment : Text) : (Fault.ofFlaw flaw expression fragment).kind =
    if flaw.numerals.all Numeral.fits then .parse else .value := by
  rw [Fault.ofFlaw, Fault.worded]
  split <;> rfl

/-- A lexeme with a fault is refused, or else too long. -/
theorem Lexeme.isOverlong_iff {lexeme : Lexeme} : lexeme.isOverlong limits = true ↔
    ∃ fault, lexeme.fault? limits expression = some fault ∧ fault.kind = .value := by
  have mapped : (∃ fault, lexeme.fault? limits expression = some fault ∧ fault.kind = .value) ↔
      (lexeme.fault? limits expression).map Fault.kind = some .value := Option.map_eq_some_iff.symm
  rw [mapped]
  cases lexeme with
  | stray text => exact ⟨(nomatch ·), (nomatch ·)⟩
  | whole number =>
    rw [Lexeme.fault?, kind_overlong?, isOverlong]
    cases Notation.isOverlong number.digits <;> simp
  | dice head suffix =>
    rw [Lexeme.fault?, Option.map_or, kind_suffix, Head.fault?, isOverlong]
    by_cases minus : head.sign = some .minus
    · simp [minus, kind_ofFlaw, Flaw.numerals]
    rw [if_neg minus, Option.map_or, Option.map_or, kind_overlong?, kind_overlong?]
    cases Notation.isOverlong head.count with
    | true => simp [minus]
    | false =>
      cases Notation.isOverlong head.sides with
      | true => simp [minus]
      | false =>
        cases limits.flaw? (amountOf head.count) (Numeral.value head.sides) with
        | none => cases suffix.any Piece.isOverlong <;> simp [minus]
        | some flaw => cases writable : flaw.numerals.all Numeral.fits <;>
            simp [minus, kind_ofFlaw, writable]

end Kinds

variable {limits : Limits} {raw : Text}

/-- Reading comes to a number that is too long. -/
theorem exists_value_iff :
    (∃ fault, parse limits raw = .error fault ∧ fault.kind = .value) ↔
      Overlong limits (normalize raw) := by
  constructor
  · rintro ⟨fault, unread, kind⟩
    rcases parse_eq_error_iff.mp unread with first | ⟨_, _, rfl⟩
    · obtain ⟨front, lexeme, rest, list, here, before⟩ := List.findSome?_eq_some_iff.mp first
      exact ⟨front, lexeme, rest, list, before, Lexeme.isOverlong_iff.mpr ⟨fault, here, kind⟩⟩
    · cases kind
  · rintro ⟨front, lexeme, rest, list, before, long⟩
    obtain ⟨fault, here, kind⟩ := Lexeme.isOverlong_iff.mp long
    exact ⟨fault, parse_eq_error_iff.mpr (.inl (List.findSome?_eq_some_iff.mpr
      ⟨front, lexeme, rest, list, here, before⟩)), kind⟩

theorem parse_refused_iff :
    (∀ fault, parse limits raw = .error fault → fault.kind = .parse) ↔
      ¬Overlong limits (normalize raw) := by
  rw [← exists_value_iff]
  constructor
  · rintro refused ⟨fault, unread, kind⟩
    rw [refused fault unread] at kind
    cases kind
  · intro short fault unread
    by_cases kind : fault.kind = .value
    · exact absurd ⟨fault, unread, kind⟩ short
    · obtain ⟨flaw, fragment, rfl, _⟩ := unreadable_of_parse unread kind
      rfl

/-! ### Short text -/

theorem isOverlong_of_length_le {digits : Text} (short : digits.length ≤ Numeral.maxDigits) :
    isOverlong digits = false := decide_eq_false (Nat.not_lt.mpr short)

theorem Piece.isOverlong_of_length_le {piece : Piece}
    (short : piece.text.length ≤ Numeral.maxDigits) : piece.isOverlong = false := by
  cases piece with
  | stray text => rfl
  | keep kind amount =>
    rw [Piece.text, List.length_append] at short
    exact Notation.isOverlong_of_length_le (by omega)
  | burst threshold =>
    cases threshold with
    | none => rfl
    | some digits =>
      rw [Piece.text, List.length_cons, List.length_cons] at short
      exact Notation.isOverlong_of_length_le (by omega)

/-- Numbers that can be written are refused in words that can be. -/
theorem fits_of_flaw? {count sides : Nat} {flaw : Flaw} (h : limits.flaw? count sides = some flaw)
    (counted : Numeral.fits count = true) (sided : Numeral.fits sides = true)
    (dice : Numeral.fits limits.dice = true) (faces : Numeral.fits limits.sides = true) :
    flaw.numerals.all Numeral.fits = true := by
  unfold Limits.flaw? at h
  repeat' split at h
  all_goals cases h
  all_goals simp [Flaw.numerals, *]

theorem Lexeme.isOverlong_of_length_le {lexeme : Lexeme}
    (short : lexeme.text.length ≤ Numeral.maxDigits) (dice : Numeral.fits limits.dice = true)
    (sides : Numeral.fits limits.sides = true) : lexeme.isOverlong limits = false := by
  cases lexeme with
  | stray text => rfl
  | whole number =>
    rw [Lexeme.text, Whole.text, List.length_append] at short
    exact Notation.isOverlong_of_length_le (by omega)
  | dice head suffix =>
    rw [Lexeme.text, Head.text, Head.unsigned, List.length_append, List.length_append,
      List.length_append, List.length_cons] at short
    have count : head.count.length ≤ Numeral.maxDigits := by omega
    have faces : head.sides.length ≤ Numeral.maxDigits := by omega
    have pieces : suffix.any Piece.isOverlong = false := by
      rw [List.any_eq_false]
      intro piece member
      have part := (infix_flatMap Piece.text member).length_le
      rw [Piece.isOverlong_of_length_le (by omega)]
      decide
    rw [isOverlong, Notation.isOverlong_of_length_le count, Notation.isOverlong_of_length_le faces,
      pieces]
    cases flawed : limits.flaw? (amountOf head.count) (Numeral.value head.sides) with
    | none => simp
    | some flaw =>
      simp [fits_of_flaw? flawed (fits_amountOf count) (Numeral.fits_value faces) dice sides]

/-- Text of no more characters than a number may have digits is read or refused, within limits that
can be written. -/
theorem not_overlong_of_length_le (short : (normalize raw).length ≤ Numeral.maxDigits)
    (dice : Numeral.fits limits.dice = true) (sides : Numeral.fits limits.sides = true) :
    ¬Overlong limits (normalize raw) := by
  rintro ⟨front, lexeme, rest, list, _, long⟩
  have part := (infix_of_mem_lexemes (list ▸ by simp : lexeme ∈ lexemes (normalize raw))).length_le
  rw [Lexeme.isOverlong_of_length_le (part.trans short) dice sides] at long
  cases long

end Notation

/-- Errors that say what is wrong with an expression or its dice. -/
def FaultKind.isOwn : FaultKind → Bool
  | .parse | .empty | .bursts | .draw => true
  | .command | .value | .overflow => false

open Notation (normalize parse Overlong not_overlong_of_length_le)

/-- How a roll comes to an error that is not its own. -/
inductive Chokes {σ : Type} [DrawSource σ] (table : Table σ) (raw : Text) (options : RollOptions) :
    Prop
  /-- A number in the text is too long. -/
  | reading (overlong : Overlong table.limits (normalize raw))
  /-- The first term that fails has to tell a number that is too long. -/
  | rolling {parsed : Parsed} {front rest : List DiceTerm} {term : DiceTerm}
    {groups : List DiceGroup} {between : σ} (read : parse table.limits raw = .ok parsed)
    (place : parsed.diceTerms = front ++ term :: rest)
    (before : (Roll.groupsOf table.limits.bursts front : Rolling σ _).run.run table.source =
      (.ok groups, between))
    (untold : (term.ending table.limits.bursts (DrawSource.answer between term.sides)).1.isTold
      term table.limits.bursts = false)
  /-- A sum of the finished roll is too long. -/
  | sending {rolled : Roll} {after : σ}
    (made : (Roll.ofExpression table.limits raw : Rolling σ _).run.run table.source =
      (.ok rolled, after))
    (mute : RollRequest.isMute options (.roll raw) rolled = true)

section Rolls

variable {σ : Type} [DrawSource σ] {limits : Limits} {raw : Text}

/-- What cannot be told is a number that is too long. -/
theorem DiceTerm.isTold_eq_false_iff {term : DiceTerm} {limit : Int} {source : σ} :
    (term.ending limit (DrawSource.answer source term.sides)).1.isTold term limit = false ↔
      ∃ fault, ((term.evaluate limit : Rolling σ _).run.run source).1 = .error fault ∧
        fault.kind = .value := by
  have kind := term.kindOf?_outcome limit source
    (term.ending limit (DrawSource.answer source term.sides)).1
  have ran := congrArg Prod.fst (term.run_evaluate limit source)
  dsimp only at ran
  rw [ran]
  have own := (term.ending limit (DrawSource.answer source term.sides)).1.kind?_ne_value
  generalize (term.ending limit (DrawSource.answer source term.sides)).1 = ending at kind own ⊢
  cases told : ending.isTold term limit with
  | false =>
    rw [told] at kind
    cases outcome : ending.outcome term limit source with
    | ok group =>
      rw [outcome] at kind
      cases kind
    | error fault =>
      rw [outcome] at kind
      simpa [kindOf?] using kind
  | true =>
    rw [told, if_pos rfl] at kind
    refine ⟨(nomatch ·), ?_⟩
    rintro ⟨fault, failed, valued⟩
    rw [failed, kindOf?, valued] at kind
    exact absurd kind.symm own

theorem Roll.isOwn_of_failure {source after : σ} {fault : Fault}
    (failure : Roll.Failure limits raw source fault after) (kind : fault.kind ≠ .value) :
    fault.kind.isOwn = true := by
  rcases Roll.kind_of_failure failure kind with own | ⟨own, _⟩ | own | own <;> rw [own] <;> rfl

/-- A roll chokes exactly if it fails with a number. -/
theorem chokes_iff {table : Table σ} {options : RollOptions} {room : Room σ} {place : Nat}
    (found : room.table? place = some table) :
    Chokes table raw options ↔
      ∃ fault, (room.roll place raw options).1 = .error fault ∧ fault.kind = .value := by
  simp only [Room.roll_eq_error_iff found]
  constructor
  · rintro (overlong | ⟨read, cut, before, untold⟩ | ⟨made, mute⟩)
    · obtain ⟨fault, unread, kind⟩ := Notation.exists_value_iff.mpr overlong
      exact ⟨fault, .inl ⟨_, .reading unread⟩, kind⟩
    · obtain ⟨fault, failed, kind⟩ := DiceTerm.isTold_eq_false_iff.mp untold
      exact ⟨_, .inl ⟨_, .rolling read cut before (Prod.ext failed rfl)⟩,
        (Fault.kind_within _ fault).trans kind⟩
    · exact ⟨_, .inr ⟨_, _, made, mute, rfl⟩, rfl⟩
  · rintro ⟨fault, ⟨after, failure⟩ | ⟨rolled, after, made, mute, rfl⟩, kind⟩
    · cases failure with
      | reading unread => exact .reading (Notation.exists_value_iff.mp ⟨fault, unread, kind⟩)
      | nothing read empty => cases kind
      | rolling read cut before failed =>
        rw [Fault.kind_within] at kind
        exact .rolling read cut before
          (DiceTerm.isTold_eq_false_iff.mpr ⟨_, congrArg Prod.fst failed, kind⟩)
    · exact .sending made mute

end Rolls

/-- A roll fails with an error of its own exactly if no number gets in its way. Text of no more
characters than a number may have digits is read or refused, within limits that can be written. -/
theorem Room.roll_isOwn_iff {σ : Type} [DrawSource σ] {room : Room σ} {place : Nat}
    {table : Table σ} (found : room.table? place = some table) (raw : Text)
    (options : RollOptions) :
    (∀ limits, (∀ fault, parse limits raw = .error fault → fault.kind = .parse) ↔
      ¬Overlong limits (normalize raw)) ∧
    (∀ limits : Limits, (normalize raw).length ≤ Numeral.maxDigits →
      Numeral.fits limits.dice = true → Numeral.fits limits.sides = true →
      ¬Overlong limits (normalize raw)) ∧
    ((∀ fault, (room.roll place raw options).1 = .error fault → fault.kind.isOwn = true) ↔
      ¬Chokes table raw options) := by
  refine ⟨fun limits => Notation.parse_refused_iff, fun limits => not_overlong_of_length_le, ?_⟩
  rw [chokes_iff found]
  constructor
  · rintro own ⟨fault, failed, kind⟩
    have ours := own fault failed
    rw [kind] at ours
    cases ours
  · intro free fault failed
    rcases (roll_eq_error_iff found).mp failed with ⟨after, failure⟩ | ⟨_, _, _, _, rfl⟩
    · exact Roll.isOwn_of_failure failure fun kind => free ⟨fault, failed, kind⟩
    · exact absurd ⟨_, failed, rfl⟩ free

/-- Dice that burst too often are told so. -/
theorem Room.roll_isOwn_iff_wildText : ∃ table, talliedRoom.table? 0 = some table ∧
    table.limits = ⟨100, 1000, 50⟩ ∧ ¬Overlong table.limits (normalize wildText) ∧
    ¬Chokes table wildText {} := by
  obtain ⟨table, found, limits⟩ : ∃ table, talliedRoom.table? 0 = some table ∧
      table.limits = ⟨100, 1000, 50⟩ := ⟨_, rfl, rfl⟩
  obtain ⟨refused, _, own⟩ := roll_isOwn_iff found wildText {}
  refine ⟨table, found, limits, (refused _).mp ?_, own.mp ?_⟩
  · intro fault unread
    rw [limits, parse_wildText] at unread
    cases unread
  · intro fault failed
    rw [roll_wildText] at failed
    cases failed
    rfl

namespace Notation

/-- Dice in a number of one digit more than a number may have. -/
def longHead : Head := ⟨none, List.replicate (Numeral.maxDigits + 1) '1', ['6']⟩

theorem isCut_longHead : longHead.IsCut := by
  refine ⟨fun c member => ?_, List.all_eq_true.mp (by decide), by decide⟩
  rw [List.eq_of_mem_replicate member]
  decide

theorem overlong_longHead : Overlong ⟨100, 1000, 50⟩ (normalize longHead.text) := by
  have long : isOverlong longHead.count = true := by
    rw [isOverlong, longHead, List.length_replicate]
    exact decide_eq_true (Nat.lt_succ_self _)
  rw [isCut_longHead.normalize_text]
  refine ⟨[], _, [], isCut_longHead.lexemes_text, List.forall_mem_nil _, ?_⟩
  rw [Lexeme.isOverlong, long]
  rfl

/-- They are too many, and the error does not say that the text cannot be read. -/
theorem not_parse_refused_longHead :
    ¬∀ fault, parse ⟨100, 1000, 50⟩ longHead.text = .error fault → fault.kind = .parse :=
  fun refused => parse_refused_iff.mp refused overlong_longHead

end Notation

end Tabletop
