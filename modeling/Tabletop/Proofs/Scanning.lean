import Tabletop.Notation.Lexeme

/-!
# Scanning well-formed notation

What the scanners cut from text that begins with a complete lexeme. A lexeme is complete where the
text after it cannot prolong it: a digit would prolong a run of digits, a `>` a burst, and a `d`
would make dice of an integer.
-/
namespace Tabletop.Notation

open Text (isDigit)

/-- The text does not prolong a digit run. -/
def EndsRun (rest : Text) : Prop := ∀ c ∈ rest.head?, isDigit c = false

/-- The text prolongs neither a digit run nor a burst. -/
def Closed (rest : Text) : Prop := ∀ c ∈ rest.head?, isDigit c = false ∧ c ≠ '>'

/-- The text is at its end or at a sign, where every lexeme is complete. -/
def AtSign (rest : Text) : Prop := ∀ c ∈ rest.head?, c = '+' ∨ c = '-'

def Unsigned (body : Text) : Prop := ∀ c ∈ body.head?, c ≠ '+' ∧ c ≠ '-'

theorem closed_cons {c : Char} {rest : Text} (run : isDigit c = false) (burst : c ≠ '>') :
    Closed (c :: rest) := by
  intro a head
  cases Option.some.inj head
  exact ⟨run, burst⟩

theorem atSign_nil : AtSign [] := fun _ head => nomatch head

theorem atSign_cons {c : Char} {rest : Text} (sign : c = '+' ∨ c = '-') : AtSign (c :: rest) := by
  intro a head
  cases Option.some.inj head
  exact sign

theorem AtSign.closed {rest : Text} (h : AtSign rest) : Closed rest := by
  intro c head
  rcases h c head with rfl | rfl <;> decide

theorem Closed.endsRun {rest : Text} (h : Closed rest) : EndsRun rest := fun c head => (h c head).1

theorem endsRun_cons {c : Char} {rest : Text} (run : isDigit c = false) : EndsRun (c :: rest) := by
  intro a head
  cases Option.some.inj head
  exact run

theorem EndsRun.takeWhile {rest : Text} (h : EndsRun rest) : rest.takeWhile isDigit = [] := by
  cases rest with
  | nil => rfl
  | cons c tail => simp [h c rfl]

theorem EndsRun.dropWhile {rest : Text} (h : EndsRun rest) : rest.dropWhile isDigit = rest := by
  cases rest with
  | nil => rfl
  | cons c tail => simp [h c rfl]

theorem takeWhile_run {run rest : Text} (digits : ∀ c ∈ run, isDigit c = true)
    (ends : EndsRun rest) : (run ++ rest).takeWhile isDigit = run := by
  rw [List.takeWhile_append_of_pos digits, ends.takeWhile, List.append_nil]

theorem dropWhile_run {run rest : Text} (digits : ∀ c ∈ run, isDigit c = true)
    (ends : EndsRun rest) : (run ++ rest).dropWhile isDigit = rest := by
  rw [List.dropWhile_append_of_pos digits, ends.dropWhile]

theorem unsigned_run {run rest : Text} (digits : ∀ c ∈ run, isDigit c = true)
    (next : run = [] → Unsigned rest) : Unsigned (run ++ rest) := by
  cases run with
  | nil => exact next rfl
  | cons a run =>
    intro c head
    cases Option.some.inj head
    have digit := digits a List.mem_cons_self
    constructor <;> rintro rfl <;> exact absurd digit (by decide)

theorem splitSign_append (sign : Option Sign) {body : Text} (unsigned : Unsigned body) :
    splitSign (signText sign ++ body) = (sign, body) := by
  cases sign with
  | some sign => cases sign <;> rfl
  | none =>
    cases body with
    | nil => rfl
    | cons c rest =>
      have := unsigned c rfl
      simp [signText, splitSign, this]

/-- A dice head is cut off whole. -/
theorem head?_append {head : Head} {rest : Text} (count : ∀ c ∈ head.count, isDigit c = true)
    (sides : ∀ c ∈ head.sides, isDigit c = true) (nonempty : head.sides ≠ [])
    (ends : EndsRun rest) : head? (head.text ++ rest) = some (head, rest) := by
  have atDie : EndsRun ('d' :: (head.sides ++ rest)) := endsRun_cons (by decide)
  have unsigned : Unsigned (head.count ++ 'd' :: (head.sides ++ rest)) := by
    refine unsigned_run count fun _ c head => ?_
    cases Option.some.inj head
    decide
  have shape : head.text ++ rest =
      signText head.sign ++ (head.count ++ 'd' :: (head.sides ++ rest)) := by
    simp [Head.text, Head.unsigned, List.append_assoc]
  rw [shape, head?, splitSign_append head.sign unsigned]
  simp only [dropWhile_run count atDie, takeWhile_run count atDie, takeWhile_run sides ends,
    dropWhile_run sides ends, List.isEmpty_iff, if_neg nonempty]

section Whole

variable {number : Whole} {rest : Text}

theorem splitSign_whole (digits : ∀ c ∈ number.digits, isDigit c = true)
    (nonempty : number.digits ≠ []) :
    splitSign (number.text ++ rest) = (number.sign, number.digits ++ rest) := by
  rw [Whole.text, List.append_assoc]
  exact splitSign_append number.sign (unsigned_run digits fun none => absurd none nonempty)

/-- An integer before a sign is not the count of dice. -/
theorem head?_whole (digits : ∀ c ∈ number.digits, isDigit c = true)
    (nonempty : number.digits ≠ []) (atSign : AtSign rest) :
    head? (number.text ++ rest) = none := by
  rw [head?, splitSign_whole digits nonempty]
  simp only [dropWhile_run digits atSign.closed.endsRun]
  split
  next tail => rcases atSign 'd' rfl with wrong | wrong <;> contradiction
  next => rfl

theorem whole?_append (digits : ∀ c ∈ number.digits, isDigit c = true)
    (nonempty : number.digits ≠ []) (atSign : AtSign rest) :
    whole? (number.text ++ rest) = some (number, rest) := by
  have noDice : rest.head? ≠ some 'd' := fun head => by
    rcases atSign 'd' head with wrong | wrong <;> contradiction
  simp [whole?, splitSign_whole digits nonempty, takeWhile_run digits atSign.closed.endsRun,
    dropWhile_run digits atSign.closed.endsRun, nonempty, noDice]

end Whole

theorem keepCode?_append (kind : KeepKind) (rest : Text) :
    keepCode? (kind.code ++ rest) = some (kind, rest) := by
  cases kind <;> rfl

theorem piece?_keep (kind : KeepKind) {amount rest : Text}
    (digits : ∀ c ∈ amount, isDigit c = true) (ends : EndsRun rest) :
    piece? ((Piece.keep kind amount).text ++ rest) = some (.keep kind amount, rest) := by
  rw [Piece.text, List.append_assoc]
  unfold piece?
  simp only [keepCode?_append, takeWhile_run digits ends, dropWhile_run digits ends]

/-- An `x` begins no keep code. -/
theorem piece?_x (rest : Text) :
    piece? ('x' :: rest) = some (.burst (threshold? rest).1, (threshold? rest).2) := rfl

theorem threshold?_run {digits rest : Text} (nonempty : digits ≠ [])
    (all : ∀ c ∈ digits, isDigit c = true) (ends : EndsRun rest) :
    threshold? ('>' :: (digits ++ rest)) = (some digits, rest) := by
  simp [threshold?, takeWhile_run all ends, dropWhile_run all ends, nonempty]

/-- A burst may have a threshold. -/
theorem piece?_burst {threshold : Option Text} {rest : Text}
    (run : ∀ digits ∈ threshold, digits ≠ [] ∧ ∀ c ∈ digits, isDigit c = true)
    (closed : Closed rest) :
    piece? ((Piece.burst threshold).text ++ rest) = some (.burst threshold, rest) := by
  cases threshold with
  | none =>
    have bare : threshold? rest = (none, rest) := by
      cases rest with
      | nil => rfl
      | cons c tail => simp [threshold?, (closed c rfl).2]
    simp [Piece.text, piece?_x, bare]
  | some digits =>
    obtain ⟨nonempty, all⟩ := run digits rfl
    simp [Piece.text, piece?_x, threshold?_run nonempty all closed.endsRun]

/-- A modifier with digits where digits belong. -/
def Piece.IsModifier : Piece → Prop
  | .keep _ amount => ∀ c ∈ amount, isDigit c = true
  | .burst threshold => ∀ digits ∈ threshold, digits ≠ [] ∧ ∀ c ∈ digits, isDigit c = true
  | .stray _ => False

theorem piece?_modifier {piece : Piece} {rest : Text} (modifier : piece.IsModifier)
    (closed : Closed rest) : piece? (piece.text ++ rest) = some (piece, rest) := by
  cases piece with
  | keep kind amount => exact piece?_keep kind modifier closed.endsRun
  | burst threshold => exact piece?_burst modifier closed
  | stray text => exact modifier.elim

/-- A modifier begins with a letter. -/
theorem closed_modifier {piece : Piece} (modifier : piece.IsModifier) (rest : Text) :
    Closed (piece.text ++ rest) := by
  cases piece with
  | keep kind amount => cases kind <;> exact closed_cons (by decide) (by decide)
  | burst threshold => cases threshold <;> exact closed_cons (by decide) (by decide)
  | stray text => exact modifier.elim

theorem piece?_atSign {rest : Text} (atSign : AtSign rest) : piece? rest = none := by
  cases rest with
  | nil => rfl
  | cons c tail => rcases atSign c rfl with rfl | rfl <;> rfl

theorem pieces_of_some {text rest : Text} {piece : Piece} (h : piece? text = some (piece, rest)) :
    pieces text = (piece :: (pieces rest).1, (pieces rest).2) := by
  rw [pieces]
  split <;> simp_all

theorem pieces_of_none {text : Text} (h : piece? text = none) : pieces text = ([], text) := by
  rw [pieces]
  split <;> simp_all

theorem closed_modifiers {suffix : List Piece} (modifiers : ∀ piece ∈ suffix, piece.IsModifier)
    {rest : Text} (closed : Closed rest) : Closed (suffix.flatMap Piece.text ++ rest) := by
  cases suffix with
  | nil => exact closed
  | cons piece suffix =>
    rw [List.flatMap_cons, List.append_assoc]
    exact closed_modifier (modifiers piece List.mem_cons_self) _

/-- Modifiers up to a sign are cut one by one. -/
theorem pieces_append {suffix : List Piece} (modifiers : ∀ piece ∈ suffix, piece.IsModifier)
    {rest : Text} (atSign : AtSign rest) :
    pieces (suffix.flatMap Piece.text ++ rest) = (suffix, rest) := by
  induction suffix with
  | nil => exact pieces_of_none (piece?_atSign atSign)
  | cons piece suffix ih =>
    have others : ∀ other ∈ suffix, other.IsModifier := fun other member =>
      modifiers other (List.mem_cons_of_mem piece member)
    have cut := piece?_modifier (modifiers piece List.mem_cons_self)
      (closed_modifiers others atSign.closed)
    rw [List.flatMap_cons, List.append_assoc, pieces_of_some cut, ih others]

theorem lexemes_nil : lexemes [] = [] := by
  rw [lexemes]
  rfl

theorem lexemes_of_head? {text rest : Text} {head : Head} (h : head? text = some (head, rest)) :
    lexemes text = .dice head (pieces rest).1 :: lexemes (pieces rest).2 := by
  rw [lexemes]
  split <;> simp_all

theorem lexemes_of_whole? {text rest : Text} {number : Whole} (noHead : head? text = none)
    (h : whole? text = some (number, rest)) : lexemes text = .whole number :: lexemes rest := by
  rw [lexemes]
  split
  next found => simp [noHead] at found
  next =>
    split
    next found =>
      cases Option.some.inj (h.symm.trans found)
      rfl
    next found => simp [h] at found

end Tabletop.Notation
