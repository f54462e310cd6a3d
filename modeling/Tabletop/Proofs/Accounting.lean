import Tabletop.Notation.Reading
import Tabletop.Proofs.Cutting

/-!
# What a suffix is made of

Each piece of a suffix was either taken by the dice or is recorded as ignored, and at most one keep
rule and one burst were taken. Numerals are read in every piece, in the ignored ones too.
-/
namespace Tabletop.Notation

open Text (isDigit)

theorem bind_success {ε α β : Type} {first : Except ε α} {next : α → Except ε β} {result : β}
    (h : (first >>= next) = .ok result) : ∃ a, first = .ok a ∧ next a = .ok result := by
  cases first with
  | error fault => exact nomatch h
  | ok a => exact ⟨a, rfl, h⟩

/-- Digits that are few enough to be read. None at all are too. -/
def IsNumeral (digits : Text) : Prop :=
  (∀ c ∈ digits, isDigit c = true) ∧ digits.length ≤ Numeral.maxDigits

/-- The numerals of the piece are few enough digits to be read. -/
def Piece.IsShort : Piece → Prop
  | .keep _ amount => amount.length ≤ Numeral.maxDigits
  | .burst threshold => ∀ digits, threshold = some digits → digits.length ≤ Numeral.maxDigits
  | .stray _ => True

/-- What digits stand for where none are one. -/
def amountOf (digits : Text) : Nat := if digits.isEmpty then 1 else Numeral.value digits

def Whole.value (number : Whole) : Int :=
  if number.sign = some .minus then -(Numeral.value number.digits : Int)
  else Numeral.value number.digits

theorem value_of_readNumeral {digits : Text} {n : Nat} (h : readNumeral digits = .ok n) :
    n = Numeral.value digits ∧ digits.length ≤ Numeral.maxDigits := by
  unfold readNumeral Numeral.read at h
  split at h
  next flaw read =>
    split at read
    · exact nomatch read
    next short =>
      cases read
      cases h
      exact ⟨rfl, Nat.not_lt.mp short⟩
  · exact nomatch h

theorem amountOf_of_readAmount {digits : Text} {n : Nat} (h : readAmount digits = .ok n) :
    n = amountOf digits ∧ digits.length ≤ Numeral.maxDigits := by
  unfold readAmount at h
  split at h
  next empty =>
    cases h
    rw [amountOf, if_pos empty, List.isEmpty_iff.mp empty]
    exact ⟨rfl, Nat.zero_le _⟩
  next filled =>
    rw [amountOf, if_neg filled]
    exact value_of_readNumeral h

theorem value_of_read {number : Whole} {value : Int} (h : number.read = .ok value) :
    value = number.value ∧ number.digits.length ≤ Numeral.maxDigits := by
  obtain ⟨size, read, done⟩ := bind_success h
  obtain ⟨rfl, short⟩ := value_of_readNumeral read
  cases done
  exact ⟨rfl, short⟩

/-- A piece of a suffix, and whether the dice took it. -/
structure Part where
  piece : Piece
  taken : Bool
  deriving DecidableEq, Repr

namespace Part

def text (part : Part) : Text := part.piece.text

def rule? (part : Part) : Option KeepRule :=
  match part.taken, part.piece with
  | true, .keep kind amount => some ⟨kind, amountOf amount⟩
  | _, _ => none

def threshold? (sides : Nat) (part : Part) : Option Int :=
  match part.taken, part.piece with
  | true, .burst threshold => some (threshold.elim sides Numeral.value : Nat)
  | _, _ => none

def dropped? (part : Part) : Option Text := if part.taken then none else some part.text

/-- What is taken is a modifier that is not void. -/
def IsSound (sides : Nat) (part : Part) : Prop :=
  part.taken = true → (∃ rule, part.rule? = some rule ∧ 1 ≤ rule.amount) ∨
    ∃ threshold, part.threshold? sides = some threshold ∧ 1 ≤ threshold

end Part

/-- The parts account for a suffix that was read after `keep` and `burst` had been set. -/
structure Accounts (sides : Nat) (keep : Option KeepRule) (burst : Option Int)
    (suffix : List Piece) (found : Suffix) (parts : List Part) : Prop where
  pieces : parts.map Part.piece = suffix
  short : ∀ piece ∈ suffix, piece.IsShort
  sound : ∀ part ∈ parts, part.IsSound sides
  keep : found.keep.toList = keep.toList ++ parts.filterMap Part.rule?
  burst : found.burst.toList = burst.toList ++ parts.filterMap (Part.threshold? sides)
  ignored : found.ignored = parts.filterMap Part.dropped?

namespace Accounts

variable {sides : Nat} {keep : Option KeepRule} {burst : Option Int} {suffix : List Piece}
  {found : Suffix} {parts : List Part}

theorem takeKeep {kind : KeepKind} {amount : Text} (short : (Piece.keep kind amount).IsShort)
    (positive : 1 ≤ amountOf amount)
    (rest : Accounts sides (some ⟨kind, amountOf amount⟩) burst suffix found parts) :
    Accounts sides none burst (.keep kind amount :: suffix) found
      (⟨.keep kind amount, true⟩ :: parts) where
  pieces := by simp [rest.pieces]
  short := List.forall_mem_cons.mpr ⟨short, rest.short⟩
  sound := List.forall_mem_cons.mpr ⟨fun _ => Or.inl ⟨_, rfl, positive⟩, rest.sound⟩
  keep := rest.keep
  burst := rest.burst
  ignored := rest.ignored

theorem takeBurst {threshold : Option Text} {n : Nat} (short : (Piece.burst threshold).IsShort)
    (value : n = threshold.elim sides Numeral.value) (positive : 1 ≤ n)
    (rest : Accounts sides keep (some (n : Int)) suffix found parts) :
    Accounts sides keep none (.burst threshold :: suffix) found
      (⟨.burst threshold, true⟩ :: parts) where
  pieces := by simp [rest.pieces]
  short := List.forall_mem_cons.mpr ⟨short, rest.short⟩
  sound := by
    refine List.forall_mem_cons.mpr ⟨fun _ => Or.inr ⟨_, rfl, ?_⟩, rest.sound⟩
    rw [← value]
    exact Int.ofNat_le.mpr positive
  keep := rest.keep
  burst := by
    rw [rest.burst, value]
    rfl
  ignored := rest.ignored

theorem drop {piece : Piece} (short : piece.IsShort)
    (rest : Accounts sides keep burst suffix found parts) :
    Accounts sides keep burst (piece :: suffix) (found.ignoring piece.text)
      (⟨piece, false⟩ :: parts) where
  pieces := by simp [rest.pieces]
  short := List.forall_mem_cons.mpr ⟨short, rest.short⟩
  sound := List.forall_mem_cons.mpr ⟨(nomatch ·), rest.sound⟩
  keep := rest.keep
  burst := rest.burst
  ignored := by
    rw [Suffix.ignoring, rest.ignored]
    rfl

end Accounts

/-- The threshold of a burst is read before it is decided whether the burst is taken. -/
theorem readSuffix_burst (sides : Nat) (keep : Option KeepRule) (burst : Option Int)
    (threshold : Option Text) (suffix : List Piece) :
    readSuffix sides keep burst (.burst threshold :: suffix) = do
      let n ← threshold.elim (.ok sides) readNumeral
      if burst.isNone && 1 ≤ n then readSuffix sides keep (some (n : Int)) suffix
      else return (← readSuffix sides keep burst suffix).ignoring (Piece.burst threshold).text := by
  cases threshold <;> rfl

/-- A threshold that is not written is the highest face. -/
theorem threshold_of_read {sides n : Nat} {threshold : Option Text}
    (h : threshold.elim (.ok sides) readNumeral = .ok n) :
    n = threshold.elim sides Numeral.value ∧ (Piece.burst threshold).IsShort := by
  cases threshold with
  | none => exact ⟨(Except.ok.inj h).symm, fun _ given => nomatch given⟩
  | some digits =>
    obtain ⟨value, short⟩ := value_of_readNumeral h
    refine ⟨value, fun other given => ?_⟩
    cases given
    exact short

theorem accounts_of_readSuffix {sides : Nat} {keep : Option KeepRule} {burst : Option Int}
    {suffix : List Piece} {found : Suffix} (h : readSuffix sides keep burst suffix = .ok found) :
    ∃ parts, Accounts sides keep burst suffix found parts := by
  induction suffix generalizing keep burst found with
  | nil =>
    cases h
    exact ⟨[], rfl, List.forall_mem_nil _, List.forall_mem_nil _,
      (List.append_nil _).symm, (List.append_nil _).symm, rfl⟩
  | cons piece suffix ih =>
    cases piece with
    | keep kind amount =>
      obtain ⟨n, read, step⟩ := bind_success h
      obtain ⟨rfl, short⟩ := amountOf_of_readAmount read
      split at step
      next free =>
        rw [Bool.and_eq_true, Option.isNone_iff_eq_none, decide_eq_true_eq] at free
        obtain ⟨rfl, positive⟩ := free
        obtain ⟨parts, rest⟩ := ih step
        exact ⟨_, rest.takeKeep short positive⟩
      next =>
        obtain ⟨others, read, done⟩ := bind_success step
        cases done
        obtain ⟨parts, rest⟩ := ih read
        exact ⟨_, rest.drop short⟩
    | burst threshold =>
      rw [readSuffix_burst] at h
      obtain ⟨n, read, step⟩ := bind_success h
      obtain ⟨value, short⟩ := threshold_of_read read
      split at step
      next free =>
        rw [Bool.and_eq_true, Option.isNone_iff_eq_none, decide_eq_true_eq] at free
        obtain ⟨rfl, positive⟩ := free
        obtain ⟨parts, rest⟩ := ih step
        exact ⟨_, rest.takeBurst short value positive⟩
      next =>
        obtain ⟨others, read, done⟩ := bind_success step
        cases done
        obtain ⟨parts, rest⟩ := ih read
        exact ⟨_, rest.drop short⟩
    | stray text =>
      obtain ⟨others, read, done⟩ := bind_success h
      cases done
      obtain ⟨parts, rest⟩ := ih read
      exact ⟨_, rest.drop trivial⟩

end Tabletop.Notation
