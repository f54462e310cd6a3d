import Tabletop.Term

/-!
# Lexemes of dice notation

The scanner of the parser (specification, 4.1 and 10.3). Normalized text is cut into dice heads with
their suffix pieces, integers, and stray text. Cutting never fails, needs no numeral to be read, and
loses nothing: `text_lexemes` puts the text together again. A digit run right before a `d` is no
integer, so it is stray unless sides follow.
-/
namespace Tabletop.Notation

open Text (isDigit)

inductive Sign where
  | plus | minus
  deriving DecidableEq, Repr

def Sign.char : Sign → Char
  | .plus => '+'
  | .minus => '-'

def signText : Option Sign → Text
  | none => []
  | some sign => [sign.char]

def splitSign : Text → Option Sign × Text
  | '+' :: rest => (some .plus, rest)
  | '-' :: rest => (some .minus, rest)
  | text => (none, text)

/-- `count` may be empty, `sides` has a digit. -/
structure Head where
  sign : Option Sign
  count : Text
  sides : Text
  deriving DecidableEq, Repr

def Head.unsigned (head : Head) : Text := head.count ++ 'd' :: head.sides

def Head.text (head : Head) : Text := signText head.sign ++ head.unsigned

def head? (text : Text) : Option (Head × Text) :=
  match (splitSign text).2.dropWhile isDigit with
  | 'd' :: rest =>
    if (rest.takeWhile isDigit).isEmpty then none
    else some (⟨(splitSign text).1, (splitSign text).2.takeWhile isDigit,
      rest.takeWhile isDigit⟩, rest.dropWhile isDigit)
  | _ => none

structure Whole where
  sign : Option Sign
  digits : Text
  deriving DecidableEq, Repr

def Whole.text (whole : Whole) : Text := signText whole.sign ++ whole.digits

/-- An integer that is not the count of dice. -/
def whole? (text : Text) : Option (Whole × Text) :=
  let digits := (splitSign text).2.takeWhile isDigit
  let rest := (splitSign text).2.dropWhile isDigit
  if digits.isEmpty || rest.head? == some 'd' then none
  else some (⟨(splitSign text).1, digits⟩, rest)

/-- A piece of the suffix of a dice head. -/
inductive Piece where
  | keep (kind : KeepKind) (amount : Text)
  | burst (threshold : Option Text)
  | stray (text : Text)
  deriving DecidableEq, Repr

def Piece.text : Piece → Text
  | .keep kind amount => kind.code ++ amount
  | .burst none => ['x']
  | .burst (some threshold) => 'x' :: '>' :: threshold
  | .stray text => text

def keepCode? : Text → Option (KeepKind × Text)
  | 'd' :: 'l' :: rest => some (.dropLowest, rest)
  | 'd' :: 'h' :: rest => some (.dropHighest, rest)
  | 'k' :: 'h' :: rest => some (.keepHighest, rest)
  | 'k' :: 'l' :: rest => some (.keepLowest, rest)
  | _ => none

/-- The threshold after an `x`, if one is written. -/
def threshold? : Text → Option Text × Text
  | '>' :: rest =>
    if (rest.takeWhile isDigit).isEmpty then (none, '>' :: rest)
    else (some (rest.takeWhile isDigit), rest.dropWhile isDigit)
  | text => (none, text)

/-- Stray suffix text runs up to the next sign or `d`. -/
def continuesStray (c : Char) : Bool := c != '+' && c != '-' && c != 'd'

def startsStray (c : Char) : Bool := continuesStray c && !isDigit c

def piece? (text : Text) : Option (Piece × Text) :=
  match keepCode? text, text with
  | some (kind, rest), _ => some (.keep kind (rest.takeWhile isDigit), rest.dropWhile isDigit)
  | none, 'x' :: rest => some (.burst (threshold? rest).1, (threshold? rest).2)
  | none, c :: rest =>
    if startsStray c then
      some (.stray (c :: rest.takeWhile continuesStray), rest.dropWhile continuesStray)
    else none
  | none, [] => none

theorem signText_splitSign (text : Text) :
    signText (splitSign text).1 ++ (splitSign text).2 = text := by
  unfold splitSign
  split <;> rfl

theorem text_of_head? {text : Text} {head : Head} {rest : Text}
    (h : head? text = some (head, rest)) : head.text ++ rest = text := by
  unfold head? at h
  split at h
  next tail hd =>
    split at h
    · contradiction
    · simp only [Option.some.injEq, Prod.mk.injEq] at h
      obtain ⟨rfl, rfl⟩ := h
      have parts := List.takeWhile_append_dropWhile (p := isDigit) (l := (splitSign text).2)
      rw [hd] at parts
      simpa [Head.text, Head.unsigned, List.append_assoc, parts] using signText_splitSign text
  · contradiction

theorem text_of_whole? {text : Text} {whole : Whole} {rest : Text}
    (h : whole? text = some (whole, rest)) : whole.text ++ rest = text := by
  simp only [whole?] at h
  split at h
  · contradiction
  · simp only [Option.some.injEq, Prod.mk.injEq] at h
    obtain ⟨rfl, rfl⟩ := h
    simpa [Whole.text, List.append_assoc] using signText_splitSign text

theorem code_of_keepCode? {text : Text} {kind : KeepKind} {rest : Text}
    (h : keepCode? text = some (kind, rest)) : kind.code ++ rest = text := by
  unfold keepCode? at h
  split at h
  all_goals first
    | contradiction
    | (simp only [Option.some.injEq, Prod.mk.injEq] at h
       obtain ⟨rfl, rfl⟩ := h
       rfl)

theorem text_threshold? (text : Text) :
    (Piece.burst (threshold? text).1).text ++ (threshold? text).2 = 'x' :: text := by
  unfold threshold?
  split
  · split <;> simp [Piece.text]
  · simp [Piece.text]

theorem text_of_piece? {text : Text} {piece : Piece} {rest : Text}
    (h : piece? text = some (piece, rest)) : piece.text ++ rest = text := by
  unfold piece? at h
  split at h
  next kind tail _ hk =>
    simp only [Option.some.injEq, Prod.mk.injEq] at h
    obtain ⟨rfl, rfl⟩ := h
    simpa [Piece.text, List.append_assoc] using code_of_keepCode? hk
  next tail _ =>
    simp only [Option.some.injEq, Prod.mk.injEq] at h
    obtain ⟨rfl, rfl⟩ := h
    exact text_threshold? tail
  next =>
    split at h
    · simp only [Option.some.injEq, Prod.mk.injEq] at h
      obtain ⟨rfl, rfl⟩ := h
      simp [Piece.text]
    · contradiction
  next => contradiction

theorem head_text_ne_nil (head : Head) : head.text ≠ [] := by
  simp [Head.text, Head.unsigned]

theorem whole_text_ne_nil {text : Text} {whole : Whole} {rest : Text}
    (h : whole? text = some (whole, rest)) : whole.text ≠ [] := by
  simp only [whole?] at h
  split at h
  · contradiction
  next hw =>
    simp only [Option.some.injEq, Prod.mk.injEq] at h
    obtain ⟨rfl, rfl⟩ := h
    simp only [Bool.or_eq_true, List.isEmpty_iff, not_or] at hw
    simp [Whole.text, hw.1]

theorem code_ne_nil (kind : KeepKind) : kind.code ≠ [] := by
  cases kind <;> simp [KeepKind.code]

theorem piece_text_ne_nil {text : Text} {piece : Piece} {rest : Text}
    (h : piece? text = some (piece, rest)) : piece.text ≠ [] := by
  unfold piece? at h
  split at h
  next kind _ _ =>
    simp only [Option.some.injEq, Prod.mk.injEq] at h
    obtain ⟨rfl, rfl⟩ := h
    simp [Piece.text, code_ne_nil kind]
  next tail _ =>
    simp only [Option.some.injEq, Prod.mk.injEq] at h
    obtain ⟨rfl, rfl⟩ := h
    cases (threshold? tail).1 <;> simp [Piece.text]
  next =>
    split at h
    · simp only [Option.some.injEq, Prod.mk.injEq] at h
      obtain ⟨rfl, rfl⟩ := h
      simp [Piece.text]
    · contradiction
  next => contradiction

/-- What is left after a nonempty beginning is shorter. -/
theorem length_lt_of_append {lead rest text : Text} (h : lead ++ rest = text)
    (nonempty : lead ≠ []) : rest.length < text.length := by
  have := List.length_pos_iff.mpr nonempty
  rw [← h, List.length_append]
  omega

/-- The suffix pieces that the text begins with, and the text after them. -/
def pieces (text : Text) : List Piece × Text :=
  match _h : piece? text with
  | none => ([], text)
  | some (piece, rest) => (piece :: (pieces rest).1, (pieces rest).2)
termination_by text.length
decreasing_by all_goals exact length_lt_of_append (text_of_piece? _h) (piece_text_ne_nil _h)

theorem text_pieces (text : Text) :
    (pieces text).1.flatMap Piece.text ++ (pieces text).2 = text := by
  fun_induction pieces text with
  | case1 => rfl
  | case2 text piece rest h ih =>
    simp only [List.flatMap_cons, List.append_assoc]
    rw [ih, text_of_piece? h]

inductive Lexeme where
  | dice (head : Head) (suffix : List Piece)
  | whole (number : Whole)
  | stray (text : Text)
  deriving DecidableEq, Repr

def Lexeme.text : Lexeme → Text
  | .dice head suffix => head.text ++ suffix.flatMap Piece.text
  | .whole number => number.text
  | .stray text => text

/-- A stray character joins the stray text after it. -/
def consStray (c : Char) : List Lexeme → List Lexeme
  | .stray text :: rest => .stray (c :: text) :: rest
  | rest => .stray [c] :: rest

theorem text_consStray (c : Char) (lexemes : List Lexeme) :
    (consStray c lexemes).flatMap Lexeme.text = c :: lexemes.flatMap Lexeme.text := by
  unfold consStray
  split <;> simp [Lexeme.text]

theorem length_pieces_le (text : Text) : (pieces text).2.length ≤ text.length := by
  have := congrArg List.length (text_pieces text)
  rw [List.length_append] at this
  omega

theorem length_of_head? {text : Text} {head : Head} {rest : Text}
    (h : head? text = some (head, rest)) : rest.length < text.length :=
  length_lt_of_append (text_of_head? h) (head_text_ne_nil head)

def lexemes (text : Text) : List Lexeme :=
  match _hd : head? text with
  | some (head, rest) => .dice head (pieces rest).1 :: lexemes (pieces rest).2
  | none =>
    match _hw : whole? text with
    | some (number, rest) => .whole number :: lexemes rest
    | none =>
      match text with
      | [] => []
      | c :: rest => consStray c (lexemes rest)
termination_by text.length
decreasing_by
  · exact Nat.lt_of_le_of_lt (length_pieces_le rest) (length_of_head? _hd)
  · exact length_lt_of_append (text_of_whole? _hw) (whole_text_ne_nil _hw)
  · simp

/-- Cutting into lexemes loses nothing. -/
theorem text_lexemes (text : Text) : (lexemes text).flatMap Lexeme.text = text := by
  fun_induction lexemes text with
  | case1 text head rest h ih =>
    simp only [List.flatMap_cons, Lexeme.text, List.append_assoc]
    rw [ih, text_pieces, text_of_head? h]
  | case2 text _ whole rest h ih =>
    simp only [List.flatMap_cons, Lexeme.text]
    rw [ih, text_of_whole? h]
  | case3 => rfl
  | case4 _ _ c rest ih => rw [text_consStray, ih]

end Tabletop.Notation
