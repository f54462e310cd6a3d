import Mathlib.Data.List.Chain
import Mathlib.Data.List.TakeWhile
import Tabletop.Proofs.Scanning

/-!
# What the scanners cut

Every lexeme of a text has digits where digits belong and is not empty, and stray text is cut in
one piece: no two stray lexemes stand side by side.
-/
namespace Tabletop.Notation

open Text (isDigit)

def Head.IsCut (head : Head) : Prop :=
  (∀ c ∈ head.count, isDigit c = true) ∧ (∀ c ∈ head.sides, isDigit c = true) ∧ head.sides ≠ []

def Whole.IsCut (number : Whole) : Prop :=
  (∀ c ∈ number.digits, isDigit c = true) ∧ number.digits ≠ []

/-- A modifier has digits where digits belong, and stray text is not empty. -/
def Piece.IsCut : Piece → Prop
  | .stray text => text ≠ []
  | piece => piece.IsModifier

/-- All parts of the lexeme have digits where digits belong, and stray text is not empty. -/
def Lexeme.IsCut : Lexeme → Prop
  | .dice head suffix => head.IsCut ∧ ∀ piece ∈ suffix, piece.IsCut
  | .whole number => number.IsCut
  | .stray text => text ≠ []

def Lexeme.isStray : Lexeme → Bool
  | .stray _ => true
  | _ => false

theorem digits_takeWhile (text : Text) : ∀ c ∈ text.takeWhile isDigit, isDigit c = true :=
  fun _ => List.mem_takeWhile_imp

theorem isCut_of_head? {text rest : Text} {head : Head} (h : head? text = some (head, rest)) :
    head.IsCut := by
  unfold head? at h
  split at h
  next tail _ =>
    split at h
    · contradiction
    next filled =>
      simp only [Option.some.injEq, Prod.mk.injEq] at h
      obtain ⟨rfl, rfl⟩ := h
      exact ⟨digits_takeWhile _, digits_takeWhile _, by simpa using filled⟩
  · contradiction

theorem isCut_of_whole? {text rest : Text} {number : Whole}
    (h : whole? text = some (number, rest)) : number.IsCut := by
  simp only [whole?] at h
  split at h
  · contradiction
  next filled =>
    simp only [Option.some.injEq, Prod.mk.injEq] at h
    obtain ⟨rfl, rfl⟩ := h
    simp only [Bool.or_eq_true, List.isEmpty_iff, not_or] at filled
    exact ⟨digits_takeWhile _, filled.1⟩

/-- A threshold is cut only where digits follow the `>`. -/
theorem isModifier_threshold? (text : Text) : (Piece.burst (threshold? text).1).IsModifier := by
  intro digits given
  unfold threshold? at given
  split at given
  · split at given
    · exact nomatch given
    next filled =>
      cases Option.some.inj given
      exact ⟨by simpa using filled, digits_takeWhile _⟩
  · exact nomatch given

/-- The cases are those of the scanner: a keep code, an `x`, stray text. -/
theorem isCut_of_piece? {text rest : Text} {piece : Piece}
    (h : piece? text = some (piece, rest)) : piece.IsCut := by
  unfold piece? at h
  split at h
  next =>
    simp only [Option.some.injEq, Prod.mk.injEq] at h
    obtain ⟨rfl, rfl⟩ := h
    exact digits_takeWhile _
  next tail _ =>
    simp only [Option.some.injEq, Prod.mk.injEq] at h
    obtain ⟨rfl, rfl⟩ := h
    exact isModifier_threshold? tail
  next =>
    split at h
    · simp only [Option.some.injEq, Prod.mk.injEq] at h
      obtain ⟨rfl, rfl⟩ := h
      exact List.cons_ne_nil _ _
    · contradiction
  next => contradiction

theorem isCut_pieces (text : Text) : ∀ piece ∈ (pieces text).1, piece.IsCut := by
  fun_induction pieces text with
  | case1 => exact List.forall_mem_nil _
  | case2 text piece rest h ih =>
    intro other member
    rcases List.mem_cons.mp member with rfl | member
    · exact isCut_of_piece? h
    · exact ih other member

/-- A stray character does not spoil the lexemes it is put before. -/
theorem isCut_consStray {c : Char} {list : List Lexeme} (cut : ∀ lexeme ∈ list, lexeme.IsCut) :
    ∀ lexeme ∈ consStray c list, lexeme.IsCut := by
  unfold consStray
  split
  next text rest =>
    intro lexeme member
    rcases List.mem_cons.mp member with rfl | member
    · exact List.cons_ne_nil c text
    · exact cut lexeme (List.mem_cons_of_mem _ member)
  next =>
    intro lexeme member
    rcases List.mem_cons.mp member with rfl | member
    · exact List.cons_ne_nil c []
    · exact cut lexeme member

/-- Whatever the text, the lexemes that it is cut into are fit to be read. -/
theorem isCut_lexemes (text : Text) : ∀ lexeme ∈ lexemes text, lexeme.IsCut := by
  fun_induction lexemes text with
  | case1 text head rest h ih =>
    intro lexeme member
    rcases List.mem_cons.mp member with rfl | member
    · exact ⟨isCut_of_head? h, isCut_pieces rest⟩
    · exact ih lexeme member
  | case2 text _ number rest h ih =>
    intro lexeme member
    rcases List.mem_cons.mp member with rfl | member
    · exact isCut_of_whole? h
    · exact ih lexeme member
  | case3 => exact List.forall_mem_nil _
  | case4 _ _ c rest ih => exact isCut_consStray ih

/-- Not both are stray. -/
def Lexeme.Apart (first second : Lexeme) : Prop := ¬(first.isStray = true ∧ second.isStray = true)

theorem isChain_cons_of_not_stray {first : Lexeme} {list : List Lexeme}
    (solid : first.isStray = false) (chain : list.IsChain Lexeme.Apart) :
    (first :: list).IsChain Lexeme.Apart := by
  refine List.isChain_cons.mpr ⟨fun second _ both => ?_, chain⟩
  rw [solid] at both
  exact nomatch both.1

/-- A stray character before stray text is taken into it, so that no second one arises. -/
theorem isChain_consStray {c : Char} {list : List Lexeme} (chain : list.IsChain Lexeme.Apart) :
    (consStray c list).IsChain Lexeme.Apart := by
  unfold consStray
  split
  next text rest =>
    rw [List.isChain_cons] at chain ⊢
    exact chain
  next noStray =>
    refine List.isChain_cons.mpr ⟨fun second head both => ?_, chain⟩
    cases second with
    | dice | whole => exact nomatch both.2
    | stray text =>
      obtain ⟨rest, rfl⟩ := List.head?_eq_some_iff.mp head
      exact noStray text rest rfl

/-- Stray text is cut in one piece. -/
theorem isChain_lexemes (text : Text) : (lexemes text).IsChain Lexeme.Apart := by
  fun_induction lexemes text with
  | case1 _ _ _ _ ih => exact isChain_cons_of_not_stray rfl ih
  | case2 _ _ _ _ _ ih => exact isChain_cons_of_not_stray rfl ih
  | case3 => exact List.isChain_nil
  | case4 _ _ _ _ ih => exact isChain_consStray ih

end Tabletop.Notation
