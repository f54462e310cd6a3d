import Tabletop.Proofs.RoundTrip

/-!
# Texts spliced at a sign

Where text that begins with a sign is put behind other text, neither reads across the sign: the
lexemes are those of the two texts, but for stray text that runs over the splice. Of the terms only
one pair can come out otherwise. Dice with a modifier at the very end of the first text bind an
integer at the very start of the second.
-/
namespace Tabletop

/-- What a fault tells beside the expression and its wording. -/
def Fault.mark (fault : Fault) : FaultKind × Option Text := (fault.kind, fault.fragment)

namespace Notation

open Text (isDigit)

/-! ### What the scanners cut before a sign -/

section Scanners

variable {text tail : Text}

/-- A run of the first text does not go on behind it. -/
theorem takeWhile_splice {p : Char → Bool} (stop : ∀ c ∈ tail.head?, p c = false) (text : Text) :
    (text ++ tail).takeWhile p = text.takeWhile p := by
  induction text with
  | nil =>
    cases tail with
    | nil => rfl
    | cons c rest => simp [stop c rfl]
  | cons c text ih => cases here : p c <;> simp [here, ih]

theorem dropWhile_splice {p : Char → Bool} (stop : ∀ c ∈ tail.head?, p c = false) (text : Text) :
    (text ++ tail).dropWhile p = text.dropWhile p ++ tail := by
  induction text with
  | nil =>
    cases tail with
    | nil => rfl
    | cons c rest => simp [stop c rfl]
  | cons c text ih => cases here : p c <;> simp [here, ih]

theorem AtSign.stops_stray (atSign : AtSign tail) : ∀ c ∈ tail.head?, continuesStray c = false := by
  intro c first
  rcases atSign c first with rfl | rfl <;> decide

/-- The sign in front of a text is its own, unless there is no text. -/
theorem splitSign_splice (filled : text ≠ []) (tail : Text) :
    splitSign (text ++ tail) = ((splitSign text).1, (splitSign text).2 ++ tail) := by
  obtain ⟨c, rest, rfl⟩ := List.exists_cons_of_ne_nil filled
  by_cases plus : c = '+'
  · subst plus
    rfl
  by_cases minus : c = '-'
  · subst minus
    rfl
  simp [splitSign, plus, minus]

theorem head?_splice (atSign : AtSign tail) (filled : text ≠ []) :
    head? (text ++ tail) = (head? text).map fun cut => (cut.1, cut.2 ++ tail) := by
  unfold head?
  rw [splitSign_splice filled]
  simp only [takeWhile_splice atSign.closed.endsRun, dropWhile_splice atSign.closed.endsRun]
  cases (splitSign text).2.dropWhile isDigit with
  | nil =>
    cases tail with
    | nil => rfl
    | cons c rest => rcases atSign c rfl with rfl | rfl <;> rfl
  | cons c rest =>
    by_cases die : c = 'd'
    · subst die
      simp only [List.cons_append, takeWhile_splice atSign.closed.endsRun,
        dropWhile_splice atSign.closed.endsRun]
      split <;> rfl
    · simp [die]

theorem whole?_splice (atSign : AtSign tail) (filled : text ≠ []) :
    whole? (text ++ tail) = (whole? text).map fun cut => (cut.1, cut.2 ++ tail) := by
  have next (rest : Text) : ((rest ++ tail).head? == some 'd') = (rest.head? == some 'd') := by
    cases rest with
    | nil =>
      cases tail with
      | nil => rfl
      | cons c tail => rcases atSign c rfl with rfl | rfl <;> rfl
    | cons c rest => rfl
  unfold whole?
  rw [splitSign_splice filled]
  simp only [takeWhile_splice atSign.closed.endsRun, dropWhile_splice atSign.closed.endsRun, next]
  split <;> rfl

theorem keepCode?_splice (atSign : AtSign tail) (text : Text) :
    keepCode? (text ++ tail) = (keepCode? text).map fun cut => (cut.1, cut.2 ++ tail) := by
  match text with
  | [] =>
    cases tail with
    | nil => rfl
    | cons c rest => rcases atSign c rfl with rfl | rfl <;> rfl
  | [a] =>
    cases tail with
    | nil => simp
    | cons c rest => rcases atSign c rfl with rfl | rfl <;> simp [keepCode?]
  | a :: b :: rest =>
    unfold keepCode?
    split <;> split <;> simp_all

theorem threshold?_splice (atSign : AtSign tail) (text : Text) :
    threshold? (text ++ tail) = ((threshold? text).1, (threshold? text).2 ++ tail) := by
  cases text with
  | nil =>
    cases tail with
    | nil => rfl
    | cons c rest => rcases atSign c rfl with rfl | rfl <;> rfl
  | cons c rest =>
    by_cases mark : c = '>'
    · subst mark
      simp only [List.cons_append, threshold?, takeWhile_splice atSign.closed.endsRun,
        dropWhile_splice atSign.closed.endsRun]
      split <;> rfl
    · simp [threshold?, mark]

theorem piece?_splice (atSign : AtSign tail) (text : Text) :
    piece? (text ++ tail) = (piece? text).map fun cut => (cut.1, cut.2 ++ tail) := by
  cases text with
  | nil => exact piece?_atSign atSign
  | cons c rest =>
    have code := keepCode?_splice atSign (c :: rest)
    rw [List.cons_append] at code
    unfold piece?
    rw [List.cons_append, code]
    cases keepCode? (c :: rest) with
    | some cut =>
      simp only [Option.map_some, takeWhile_splice atSign.closed.endsRun,
        dropWhile_splice atSign.closed.endsRun]
    | none =>
      by_cases burst : c = 'x'
      · subst burst
        simp only [Option.map_none, threshold?_splice atSign, Option.map_some]
      · simp only [Option.map_none, takeWhile_splice atSign.stops_stray,
          dropWhile_splice atSign.stops_stray]
        split <;> simp_all

theorem pieces_splice (atSign : AtSign tail) (text : Text) :
    pieces (text ++ tail) = ((pieces text).1, (pieces text).2 ++ tail) := by
  fun_induction pieces text with
  | case1 text none =>
    have cut := piece?_splice atSign text
    rw [none] at cut
    exact pieces_of_none cut
  | case2 text piece rest some ih =>
    have cut := piece?_splice atSign text
    rw [some] at cut
    rw [pieces_of_some cut, ih]

end Scanners

/-! ### The lexemes of spliced texts -/

/-- Two lists of lexemes, with one stray text where stray text meets stray text. -/
def splice : List Lexeme → List Lexeme → List Lexeme
  | [], second => second
  | [.stray text], .stray more :: second => .stray (text ++ more) :: second
  | lexeme :: first, second => lexeme :: splice first second

theorem splice_cons_of_solid {lexeme : Lexeme} (solid : lexeme.isStray = false)
    (first second : List Lexeme) :
    splice (lexeme :: first) second = lexeme :: splice first second := by
  cases lexeme with
  | stray text => cases solid
  | dice | whole => rfl

theorem consStray_splice (c : Char) (first second : List Lexeme) :
    consStray c (splice first second) = splice (consStray c first) second := by
  cases first with
  | nil =>
    cases second with
    | nil => rfl
    | cons next second => cases next <;> rfl
  | cons lexeme first =>
    cases lexeme with
    | dice | whole => rfl
    | stray text =>
      cases first with
      | cons next first => rfl
      | nil =>
        cases second with
        | nil => rfl
        | cons next second => cases next <;> rfl

theorem lexemes_of_stray {c : Char} {rest : Text} (noHead : head? (c :: rest) = none)
    (noWhole : whole? (c :: rest) = none) :
    lexemes (c :: rest) = consStray c (lexemes rest) := by
  rw [lexemes]
  split
  next found => simp [noHead] at found
  next =>
    split
    next found => simp [noWhole] at found
    next => rfl

/-- No lexeme reads across a sign. -/
theorem lexemes_splice {tail : Text} (atSign : AtSign tail) (text : Text) :
    lexemes (text ++ tail) = splice (lexemes text) (lexemes tail) := by
  fun_induction lexemes text with
  | case1 text head rest found ih =>
    have filled : text ≠ [] := by
      rintro rfl
      cases found
    have cut := head?_splice atSign filled
    rw [found] at cut
    rw [lexemes_of_head? cut, splice_cons_of_solid rfl, ← ih, pieces_splice atSign]
  | case2 text none number rest found ih =>
    have filled : text ≠ [] := by
      rintro rfl
      cases found
    have noHead := head?_splice atSign filled
    have cut := whole?_splice atSign filled
    rw [none] at noHead
    rw [found] at cut
    rw [lexemes_of_whole? noHead cut, splice_cons_of_solid rfl, ← ih]
  | case3 => rfl
  | case4 c rest noHead noWhole ih =>
    have filled : c :: rest ≠ [] := List.cons_ne_nil c rest
    have head := head?_splice atSign filled
    have whole := whole?_splice atSign filled
    rw [noHead] at head
    rw [noWhole] at whole
    rw [List.cons_append] at head whole ⊢
    rw [lexemes_of_stray head whole, ih, consStray_splice]

/-- Stray text may be made one, and nothing else. -/
theorem splice_cases (first second : List Lexeme) :
    splice first second = first ++ second ∨
    ∃ lead text more rest, first = lead ++ [.stray text] ∧ second = .stray more :: rest ∧
      splice first second = lead ++ .stray (text ++ more) :: rest := by
  fun_induction splice first second with
  | case1 second => exact Or.inl rfl
  | case2 text more second => exact Or.inr ⟨[], text, more, second, rfl, rfl, rfl⟩
  | case3 lexeme first second _ ih =>
    rcases ih with same | ⟨lead, text, more, rest, rfl, rfl, same⟩
    · exact Or.inl (by rw [same, List.cons_append])
    · exact Or.inr ⟨lexeme :: lead, text, more, rest, rfl, rfl, by rw [same, List.cons_append]⟩

/-! ### Reading one list of lexemes after another -/

/-- Two readings in turn: the first fault counts, and what is read is put together. -/
def inTurn (first second : Except Fault (List Term × List Text)) :
    Except Fault (List Term × List Text) := do
  let one ← first
  let other ← second
  return (one.1 ++ other.1, one.2 ++ other.2)

section Turns

variable {first second third : Except Fault (List Term × List Text)}
  {one other : List Term × List Text} {fault : Fault}

@[simp] theorem inTurn_ok_ok :
    inTurn (.ok one) (.ok other) = .ok (one.1 ++ other.1, one.2 ++ other.2) := rfl

@[simp] theorem inTurn_error : inTurn (.error fault) second = .error fault := rfl

@[simp] theorem inTurn_ok_error : inTurn (.ok one) (.error fault) = .error fault := rfl

theorem inTurn_nil (second : Except Fault (List Term × List Text)) :
    inTurn (.ok ([], [])) second = second := by
  cases second <;> rfl

theorem inTurn_assoc : inTurn (inTurn first second) third = inTurn first (inTurn second third) := by
  cases first with
  | error fault => rfl
  | ok one =>
    cases second with
    | error fault => rfl
    | ok other =>
      cases third with
      | error fault => rfl
      | ok last => simp only [inTurn_ok_ok, List.append_assoc]

end Turns

/-- The first list ends with dice, and the second begins with an integer. -/
def Touches (first second : List Lexeme) : Prop :=
  ∃ head suffix number, first.getLast? = some (.dice head suffix) ∧
    second.head? = some (.whole number)

theorem Touches.cons {first second : List Lexeme} (lexeme : Lexeme)
    (touches : Touches first second) : Touches (lexeme :: first) second := by
  obtain ⟨head, suffix, number, last, next⟩ := touches
  refine ⟨head, suffix, number, ?_, next⟩
  rw [List.getLast?_cons, last]
  rfl

section Reading

variable {limits : Limits} {expression : Text}

theorem readTerms_stray_cons (text : Text) (rest : List Lexeme) :
    readTerms limits expression (.stray text :: rest) =
      inTurn (readTerms limits expression [.stray text]) (readTerms limits expression rest) := rfl

theorem readTerms_whole_cons (number : Whole) (rest : List Lexeme) :
    readTerms limits expression (.whole number :: rest) =
      inTurn (readTerms limits expression [.whole number]) (readTerms limits expression rest) := by
  simp only [readTerms]
  cases number.read <;> rfl

theorem readTerms_dice_whole_cons (head : Head) (suffix : List Piece) (number : Whole)
    (rest : List Lexeme) :
    readTerms limits expression (.dice head suffix :: .whole number :: rest) =
      inTurn (readTerms limits expression [.dice head suffix, .whole number])
        (readTerms limits expression rest) := by
  simp only [readTerms]
  cases readDice limits expression head suffix with
  | error fault => rfl
  | ok found =>
    cases number.read with
    | error fault => rfl
    | ok value =>
      obtain ⟨term, dropped⟩ := found
      cases bound : term.hasModifier && number.sign.isSome <;>
        cases readTerms limits expression rest <;>
        simp [bound, bind, Except.bind, pure, Except.pure]

theorem readTerms_dice_cons (head : Head) (suffix : List Piece) {rest : List Lexeme}
    (apart : ∀ number tail, rest ≠ .whole number :: tail) :
    readTerms limits expression (.dice head suffix :: rest) =
      inTurn (readTerms limits expression [.dice head suffix])
        (readTerms limits expression rest) := by
  have alone : ∀ number tail, [] ≠ Lexeme.whole number :: tail := fun _ _ =>
    (List.cons_ne_nil _ _).symm
  rw [readTerms.eq_5 _ _ _ _ _ apart, readTerms.eq_5 _ _ _ _ _ alone]
  cases readDice limits expression head suffix with
  | error fault => rfl
  | ok found =>
    cases readTerms limits expression rest <;>
      simp [readTerms, bind, Except.bind, pure, Except.pure]

/-- Reading goes on afresh behind a list that does not end in dice, or before one that does not
begin with an integer. -/
theorem readTerms_append {first second : List Lexeme} (apart : ¬Touches first second) :
    readTerms limits expression (first ++ second) =
      inTurn (readTerms limits expression first) (readTerms limits expression second) := by
  induction first using readTerms.induct with
  | case1 => rw [readTerms, inTurn_nil, List.nil_append]
  | case2 text rest ih =>
    have fresh := ih fun touches => apart (touches.cons _)
    rw [List.cons_append, readTerms_stray_cons, fresh, readTerms_stray_cons text rest, inTurn_assoc]
  | case3 number rest ih =>
    have fresh := ih fun touches => apart (touches.cons _)
    rw [List.cons_append, readTerms_whole_cons, fresh, readTerms_whole_cons number rest,
      inTurn_assoc]
  | case4 head suffix number rest ih =>
    have fresh := ih fun touches => apart ((touches.cons _).cons _)
    rw [List.cons_append, List.cons_append, readTerms_dice_whole_cons, fresh,
      readTerms_dice_whole_cons head suffix number rest, inTurn_assoc]
  | case5 head suffix rest noWhole ih =>
    have fresh := ih fun touches => apart (touches.cons _)
    have noNumber : ∀ number tail, rest ++ second ≠ .whole number :: tail := by
      intro number tail same
      cases rest with
      | nil => exact apart ⟨head, suffix, number, rfl, by rw [← List.nil_append second, same]; rfl⟩
      | cons next rest =>
        obtain ⟨rfl, _⟩ := List.cons.inj same
        exact noWhole number rest rfl
    rw [List.cons_append, readTerms_dice_cons head suffix noNumber, fresh,
      readTerms_dice_cons head suffix noWhole, inTurn_assoc]

end Reading

/-- Dice at the very end of a text may take in an integer at the very start of the next one; all
other terms stay as they are. -/
inductive Meets (next : Text) : List Term → List Term → List Term → Prop
  | apart (one other : List Term) : Meets next one other (one ++ other)
  | bound (front rest : List Term) (dice : DiceTerm) (number : FlatTerm)
      (isOpen : dice.isOpen = true) (start : number.source <+: next) :
      Meets next (front ++ [.dice dice]) (.flat number :: rest)
        (front ++ .dice (dice.withBonus number.value number.source) :: rest)

namespace Meets

variable {next : Text} {one other whole : List Term}

theorem shapes (meets : Meets next one other whole) :
    whole.filterMap Term.shape? = one.filterMap Term.shape? ++ other.filterMap Term.shape? := by
  cases meets with
  | apart => exact List.filterMap_append
  | bound front rest dice number =>
    simp only [List.filterMap_append, List.append_assoc]
    rfl

theorem constants (meets : Meets next one other whole) :
    Numeral.sum (whole.map Term.constant) =
      Numeral.sum (one.map Term.constant) + Numeral.sum (other.map Term.constant) := by
  cases meets with
  | apart => rw [List.map_append, Numeral.sum_append]
  | bound front rest dice number isOpen =>
    have free : dice.bonus = 0 := by
      rw [DiceTerm.isOpen, Bool.and_eq_true, beq_iff_eq] at isOpen
      exact isOpen.2
    simp only [List.map_append, List.map_cons, List.map_nil, Numeral.sum_append, Numeral.sum,
      Term.constant, DiceTerm.withBonus, free]
    omega

end Meets

/-- What reading spliced lexemes comes to: the first fault there is, or the terms of both. -/
inductive Splices (next : Text) :
    (one other whole : Except Fault (List Term × List Text)) → Prop
  | first (fault : Fault) (other : Except Fault (List Term × List Text)) :
      Splices next (.error fault) other (.error fault)
  | second (found : List Term × List Text) (fault : Fault) :
      Splices next (.ok found) (.error fault) (.error fault)
  | both {one other whole : List Term} {ignored lost dropped : List Text}
      (terms : Meets next one other whole)
      (texts : dropped.flatten = ignored.flatten ++ lost.flatten) :
      Splices next (.ok (one, ignored)) (.ok (other, lost)) (.ok (whole, dropped))

section Reading

variable {limits : Limits} {expression next : Text}

theorem splices_inTurn (first second : Except Fault (List Term × List Text)) :
    Splices next first second (inTurn first second) := by
  cases first with
  | error fault => exact .first fault second
  | ok one =>
    cases second with
    | error fault => exact .second one fault
    | ok other => exact .both (.apart _ _) List.flatten_append

/-- Whatever is read in front of both sides. -/
theorem Splices.prepend {one other whole : Except Fault (List Term × List Text)}
    (lead : Except Fault (List Term × List Text)) (splices : Splices next one other whole) :
    Splices next (inTurn lead one) other (inTurn lead whole) := by
  cases lead with
  | error fault => exact .first fault other
  | ok found =>
    cases splices with
    | first fault => exact .first fault other
    | second _ fault => exact .second _ fault
    | both terms texts =>
      refine .both ?_ ?_
      · cases terms with
        | apart one other =>
          rw [← List.append_assoc]
          exact .apart _ _
        | bound front rest dice number isOpen start =>
          rw [← List.append_assoc, ← List.append_assoc]
          exact .bound _ rest dice number isOpen start
      · simp only [List.flatten_append, texts, List.append_assoc]

/-- Stray text is one piece of ignored text where it was two. -/
theorem splices_stray (text more : Text) (rest : List Lexeme) :
    Splices next (readTerms limits expression [.stray text])
      (readTerms limits expression (.stray more :: rest))
      (readTerms limits expression (.stray (text ++ more) :: rest)) := by
  rw [readTerms_stray_cons more, readTerms_stray_cons (text ++ more)]
  cases readTerms limits expression rest with
  | error fault => exact .second _ fault
  | ok found => exact .both (.apart _ _) (by simp)

/-- Dice without a bonus. -/
theorem bonus_of_readDice {head : Head} {suffix : List Piece} {term : DiceTerm}
    {dropped : List Text} (h : readDice limits expression head suffix = .ok (term, dropped)) :
    term.bonus = 0 := by
  obtain ⟨found, _, h⟩ := bind_success h
  obtain ⟨others, _, done⟩ := bind_success h
  cases done
  rfl

theorem splices_touching {head : Head} {suffix : List Piece} {number : Whole} {rest : List Lexeme}
    (start : number.text <+: next) :
    Splices next (readTerms limits expression [.dice head suffix])
      (readTerms limits expression (.whole number :: rest))
      (readTerms limits expression (.dice head suffix :: .whole number :: rest)) := by
  simp only [readTerms]
  cases readHead : readDice limits expression head suffix with
  | error fault => exact .first fault _
  | ok found =>
    obtain ⟨term, dropped⟩ := found
    cases number.read with
    | error fault => exact .second _ fault
    | ok value =>
      cases readTerms limits expression rest with
      | error fault => exact .second _ fault
      | ok others =>
        simp only [bind, Except.bind, pure, Except.pure]
        split
        next bound =>
          have isOpen : term.isOpen = true := by
            rw [Bool.and_eq_true] at bound
            rw [DiceTerm.isOpen, bound.1, bonus_of_readDice readHead]
            rfl
          exact .both (.bound [] others.1 term ⟨value, number.text⟩ isOpen start) (by simp)
        next => exact .both (.apart _ _) (by simp)

theorem not_touches_of_head {first rest : List Lexeme} {lexeme : Lexeme}
    (other : ∀ number, lexeme ≠ .whole number) : ¬Touches first (lexeme :: rest) := by
  rintro ⟨head, suffix, number, last, next⟩
  exact other number (Option.some.inj next)

theorem readTerms_splice (first second : List Lexeme) :
    Splices (second.flatMap Lexeme.text) (readTerms limits expression first)
      (readTerms limits expression second) (readTerms limits expression (splice first second)) := by
  rcases splice_cases first second with same | ⟨lead, text, more, rest, rfl, rfl, same⟩
  · rw [same]
    by_cases touches : Touches first second
    · obtain ⟨head, suffix, number, last, next⟩ := touches
      obtain ⟨lead, rfl⟩ := List.getLast?_eq_some_iff.mp last
      obtain ⟨rest, rfl⟩ := List.head?_eq_some_iff.mp next
      have noInteger : ∀ number, Lexeme.dice head suffix ≠ .whole number := fun _ => nofun
      rw [List.append_assoc, List.singleton_append,
        readTerms_append (not_touches_of_head noInteger),
        readTerms_append (not_touches_of_head noInteger)]
      exact (splices_touching (List.prefix_append _ _)).prepend _
    · rw [readTerms_append touches]
      exact splices_inTurn _ _
  · -- Stray text lies between, so no dice touch an integer here.
    have noInteger (text : Text) : ∀ number, Lexeme.stray text ≠ .whole number := fun _ => nofun
    rw [same, readTerms_append (not_touches_of_head (noInteger text)),
      readTerms_append (not_touches_of_head (noInteger (text ++ more)))]
    exact (splices_stray text more rest).prepend _

end Reading

/-! ### The expression that a fault names -/

theorem mark_bind {α β : Type} {one other : Except Fault α} {next after : α → Except Fault β}
    (same : one.mapError Fault.mark = other.mapError Fault.mark)
    (each : ∀ a, (next a).mapError Fault.mark = (after a).mapError Fault.mark) :
    (one >>= next).mapError Fault.mark = (other >>= after).mapError Fault.mark := by
  cases one with
  | error fault =>
    cases other with
    | error fault => exact congrArg Except.error (Except.error.inj same)
    | ok b => cases same
  | ok a =>
    cases other with
    | error fault => cases same
    | ok b =>
      cases same
      exact each a

theorem mark_ofFlaw (flaw : Flaw) (one other fragment : Text) :
    (Fault.ofFlaw flaw one fragment).mark = (Fault.ofFlaw flaw other fragment).mark := by
  unfold Fault.ofFlaw Fault.worded
  split <;> rfl

theorem mark_readHead (limits : Limits) (one other : Text) (head : Head) :
    (head.read limits one).mapError Fault.mark = (head.read limits other).mapError Fault.mark := by
  have refused (flaw : Flaw) :
      (Except.error (Fault.ofFlaw flaw one head.text) : Except Fault (Nat × Nat)).mapError
        Fault.mark = (Except.error (Fault.ofFlaw flaw other head.text)).mapError Fault.mark :=
    congrArg Except.error (mark_ofFlaw flaw one other head.text)
  unfold Head.read
  split
  · exact refused _
  refine mark_bind rfl fun count => mark_bind rfl fun sides => ?_
  split
  · exact refused _
  split
  · exact refused _
  split
  · exact refused _
  split
  · exact refused _
  · rfl

theorem mark_readDice (limits : Limits) (one other : Text) (head : Head) (suffix : List Piece) :
    (readDice limits one head suffix).mapError Fault.mark =
      (readDice limits other head suffix).mapError Fault.mark :=
  mark_bind (mark_readHead limits one other head) fun _ => rfl

/-- Where a text stands does not change what is read of it, but for the expression in a fault. -/
theorem mark_readTerms (limits : Limits) (one other : Text) (list : List Lexeme) :
    (readTerms limits one list).mapError Fault.mark =
      (readTerms limits other list).mapError Fault.mark := by
  induction list using readTerms.induct with
  | case1 => rfl
  | case2 text rest ih => exact mark_bind ih fun _ => rfl
  | case3 number rest ih => exact mark_bind rfl fun _ => mark_bind ih fun _ => rfl
  | case4 head suffix number rest ih =>
    exact mark_bind (mark_readDice limits one other head suffix) fun _ =>
      mark_bind rfl fun _ => mark_bind ih fun _ => rfl
  | case5 head suffix rest noWhole ih =>
    rw [readTerms.eq_5 _ _ _ _ _ noWhole, readTerms.eq_5 _ _ _ _ _ noWhole]
    exact mark_bind (mark_readDice limits one other head suffix) fun _ => mark_bind ih fun _ => rfl

/-! ### Scanning spliced texts -/

/-- What is found in a text that is spliced of two, by what is found in each. -/
structure Spliced (one other whole : Parsed) : Prop where
  terms : Meets other.expression one.terms other.terms whole.terms
  shapes : whole.diceTerms.map DiceTerm.shape =
    one.diceTerms.map DiceTerm.shape ++ other.diceTerms.map DiceTerm.shape
  constant : whole.constant = one.constant + other.constant
  ignored : whole.ignored.flatten = one.ignored.flatten ++ other.ignored.flatten

theorem scan_of_ok {limits : Limits} {text : Text} {found : List Term × List Text}
    (read : readTerms limits text (lexemes text) = .ok found) :
    scan limits text = .ok ⟨text, found.1, found.2⟩ := by
  rw [scan, read]
  rfl

theorem scan_of_error {limits : Limits} {text : Text} {fault : Fault}
    (read : readTerms limits text (lexemes text) = .error fault) :
    scan limits text = .error fault := by
  rw [scan, read]
  rfl

theorem eq_ok_of_mark {α : Type} {one other : Except Fault α} {a : α}
    (same : one.mapError Fault.mark = other.mapError Fault.mark) (h : one = .ok a) :
    other = .ok a := by
  subst h
  cases other with
  | error fault => cases same
  | ok b =>
    cases same
    rfl

theorem eq_error_of_mark {α : Type} {one other : Except Fault α} {fault : Fault}
    (same : one.mapError Fault.mark = other.mapError Fault.mark) (h : one = .error fault) :
    ∃ found, other = .error found ∧ found.kind = fault.kind ∧ found.fragment = fault.fragment := by
  subst h
  cases other with
  | ok b => cases same
  | error found =>
    have mark : (fault.kind, fault.fragment) = (found.kind, found.fragment) := Except.error.inj same
    rw [Prod.mk.injEq] at mark
    exact ⟨found, rfl, mark.1.symm, mark.2.symm⟩

theorem spliced_of_meets {one other whole : Parsed}
    (terms : Meets other.expression one.terms other.terms whole.terms)
    (texts : whole.ignored.flatten = one.ignored.flatten ++ other.ignored.flatten) :
    Spliced one other whole where
  terms := terms
  shapes := by
    rw [Parsed.shapes_eq, Parsed.shapes_eq, Parsed.shapes_eq]
    exact terms.shapes
  constant := by
    rw [Parsed.constant_eq, Parsed.constant_eq, Parsed.constant_eq]
    exact terms.constants
  ignored := texts

/-- A sign is a clean boundary. Text that begins with a sign, put behind other text, is scanned as
both texts are on their own: the first fault there is comes out with its fragment, and otherwise
all dice and constants and all ignored text. An integer at its very start may end up as the bonus
of dice at the very end of the other text, and no other term changes. -/
theorem scan_append {limits : Limits} {first second : Text} (atSign : AtSign second) :
    match scan limits first, scan limits second with
    | .error fault, _ | .ok _, .error fault =>
      ∃ found, scan limits (first ++ second) = .error found ∧ found.kind = fault.kind ∧
        found.fragment = fault.fragment
    | .ok one, .ok other =>
      ∃ whole, scan limits (first ++ second) = .ok whole ∧ Spliced one other whole := by
  have splices := @readTerms_splice limits (first ++ second) (lexemes first) (lexemes second)
  rw [← lexemes_splice atSign, text_lexemes] at splices
  -- A part is read under its own name or under that of the whole: only the faults tell which.
  have front := mark_readTerms limits first (first ++ second) (lexemes first)
  have back := mark_readTerms limits second (first ++ second) (lexemes second)
  generalize whole : readTerms limits (first ++ second) (lexemes (first ++ second)) = outcome
    at splices
  cases one : readTerms limits first (lexemes first) with
  | error fault =>
    obtain ⟨found, read, same⟩ := eq_error_of_mark front one
    rw [read] at splices
    cases splices
    rw [scan_of_error one]
    exact ⟨found, scan_of_error whole, same⟩
  | ok here =>
    rw [eq_ok_of_mark front one] at splices
    rw [scan_of_ok one]
    cases other : readTerms limits second (lexemes second) with
    | error fault =>
      obtain ⟨found, read, same⟩ := eq_error_of_mark back other
      rw [read] at splices
      cases splices
      rw [scan_of_error other]
      exact ⟨found, scan_of_error whole, same⟩
    | ok there =>
      rw [eq_ok_of_mark back other] at splices
      rw [scan_of_ok other]
      cases splices with
      | both terms texts => exact ⟨_, scan_of_ok whole, spliced_of_meets terms texts⟩

/-- Open dice at the end, before an integer at the start. -/
def openText : Text := "??2d6x".toList

def openParsed : Parsed where
  expression := "??2d6x".toList
  terms := [.dice ⟨2, 6, none, some 6, 0, "2d6x".toList⟩]
  ignored := ["??".toList]

def signedText : Text := "+5+3d8-z".toList

def signedParsed : Parsed where
  expression := "+5+3d8-z".toList
  terms := [.flat ⟨5, "+5".toList⟩, .dice ⟨3, 8, none, none, 0, "3d8".toList⟩]
  ignored := ["-z".toList]

theorem scan_append_openText :
    AtSign signedText ∧ scan ⟨100, 1000, 50⟩ openText = .ok openParsed ∧
    scan ⟨100, 1000, 50⟩ signedText = .ok signedParsed ∧
    ∃ whole, scan ⟨100, 1000, 50⟩ (openText ++ signedText) = .ok whole ∧
      Spliced openParsed signedParsed whole := by
  have atSign : AtSign signedText := atSign_cons (Or.inl rfl)
  have one : scan ⟨100, 1000, 50⟩ openText = .ok openParsed := by cbv
  have other : scan ⟨100, 1000, 50⟩ signedText = .ok signedParsed := by cbv
  have spliced := @scan_append ⟨100, 1000, 50⟩ openText signedText atSign
  rw [one, other] at spliced
  exact ⟨atSign, one, other, spliced⟩

end Notation

end Tabletop
