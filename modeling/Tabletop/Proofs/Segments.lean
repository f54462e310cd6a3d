import Mathlib
import Tabletop.Proofs.Accounting

/-!
# Every character is accounted for

Parsed text is put together from segments in their order: stray text that is recorded as ignored,
and the sources of the terms, before which dice may have a plus. A dice source in turn is a head,
suffix parts that were taken or are recorded as ignored, and a bound integer.
-/
namespace Tabletop.Notation

open Text (isDigit)

/-- How the source of a dice term is laid out. -/
structure Layout where
  count : Text
  sides : Text
  parts : List Part
  bound : Option Whole
  deriving DecidableEq, Repr

namespace Layout

def text (layout : Layout) : Text :=
  layout.count ++ 'd' :: layout.sides ++ layout.parts.flatMap Part.text ++
    layout.bound.elim [] Whole.text

def rules (layout : Layout) : List KeepRule := layout.parts.filterMap Part.rule?

def thresholds (layout : Layout) : List Int :=
  layout.parts.filterMap (Part.threshold? (Numeral.value layout.sides))

/-- The term that has this source. -/
def term (layout : Layout) : DiceTerm where
  count := amountOf layout.count
  sides := Numeral.value layout.sides
  keep := layout.rules.head?
  burst := layout.thresholds.head?
  bonus := layout.bound.elim 0 Whole.value
  source := layout.text

def dropped (layout : Layout) : List Text := layout.parts.filterMap Part.dropped?

/-- The layout with an integer at its end. -/
def binding (number : Whole) (layout : Layout) : Layout := { layout with bound := some number }

/-- The numbers are within the limits, at most one rule and one burst are taken, and the bound
integer has a sign and a modifier to be bound by. -/
structure IsSound (limits : Limits) (layout : Layout) : Prop where
  count : IsNumeral layout.count
  sides : IsNumeral layout.sides
  sides_ne_nil : layout.sides ≠ []
  count_pos : 1 ≤ layout.term.count
  count_le : (layout.term.count : Int) ≤ limits.dice
  sides_pos : 1 ≤ layout.term.sides
  sides_le : (layout.term.sides : Int) ≤ limits.sides
  cut : ∀ part ∈ layout.parts, part.piece.IsCut
  short : ∀ part ∈ layout.parts, part.piece.IsShort
  parts : ∀ part ∈ layout.parts, part.IsSound layout.term.sides
  one_rule : layout.rules.length ≤ 1
  one_threshold : layout.thresholds.length ≤ 1
  bound : ∀ number ∈ layout.bound, number.digits ≠ [] ∧ IsNumeral number.digits ∧
    number.sign.isSome = true ∧ layout.term.hasModifier = true

end Layout

/-- A stretch of parsed text. -/
inductive Segment where
  | junk (text : Text)
  | flat (number : Whole)
  | dice (plus : Bool) (layout : Layout)
  deriving DecidableEq, Repr

namespace Segment

/-- The term whose source the segment holds. -/
def term? : Segment → Option Term
  | .junk _ => none
  | .flat number => some (.flat ⟨number.value, number.text⟩)
  | .dice _ layout => some (.dice layout.term)

def text : Segment → Text
  | .junk text => text
  | .flat number => number.text
  | .dice plus layout => (if plus then ['+'] else []) ++ layout.term.source

def ignored : Segment → List Text
  | .junk text => [text]
  | .flat _ => []
  | .dice _ layout => layout.dropped

def IsSound (limits : Limits) : Segment → Prop
  | .junk text => text ≠ []
  | .flat number => number.digits ≠ [] ∧ IsNumeral number.digits
  | .dice _ layout => layout.IsSound limits

def isJunk : Segment → Bool
  | .junk _ => true
  | _ => false

end Segment

/-- A head is read if it is no subtraction and its numbers are within the limits. -/
theorem read_success {limits : Limits} {expression : Text} {head : Head} {count sides : Nat}
    (h : head.read limits expression = .ok (count, sides)) :
    head.sign ≠ some .minus ∧
    (count = amountOf head.count ∧ head.count.length ≤ Numeral.maxDigits) ∧
    (sides = Numeral.value head.sides ∧ head.sides.length ≤ Numeral.maxDigits) ∧
    (1 ≤ count ∧ (count : Int) ≤ limits.dice) ∧ 1 ≤ sides ∧ (sides : Int) ≤ limits.sides := by
  unfold Head.read at h
  split at h
  · exact nomatch h
  next unsubtracted =>
    obtain ⟨n, readCount, h⟩ := bind_success h
    obtain ⟨m, readSides, h⟩ := bind_success h
    split at h
    · exact nomatch h
    split at h
    · exact nomatch h
    split at h
    · exact nomatch h
    split at h
    · exact nomatch h
    cases h
    exact ⟨unsubtracted, amountOf_of_readAmount readCount, value_of_readNumeral readSides,
      by omega, by omega⟩

theorem signText_of_not_minus {sign : Option Sign} (h : sign ≠ some .minus) :
    signText sign = if sign.isSome then ['+'] else [] := by
  cases sign with
  | none => rfl
  | some kind =>
    cases kind with
    | plus => rfl
    | minus => exact absurd rfl h

theorem head?_of_toList {α : Type} {found : Option α} {list : List α} (h : found.toList = list) :
    list.head? = found ∧ list.length ≤ 1 := by
  subst h
  cases found <;> simp

/-- Dice that are read have a source without a bonus. -/
theorem layout_of_readDice {limits : Limits} {expression : Text} {head : Head}
    {suffix : List Piece} {term : DiceTerm} {dropped : List Text}
    (headCut : head.IsCut) (suffixCut : ∀ piece ∈ suffix, piece.IsCut)
    (h : readDice limits expression head suffix = .ok (term, dropped)) :
    ∃ layout : Layout, layout.IsSound limits ∧ layout.bound = none ∧ layout.term = term ∧
      layout.dropped = dropped ∧
      (if head.sign.isSome then ['+'] else []) ++ layout.text =
        (Lexeme.dice head suffix).text := by
  obtain ⟨⟨count, sides⟩, readHead, h⟩ := bind_success h
  obtain ⟨found, readSuffix, h⟩ := bind_success h
  cases h
  obtain ⟨unsubtracted, ⟨rfl, countShort⟩, ⟨rfl, sidesShort⟩, ⟨countPos, countLe⟩, sidesPos,
    sidesLe⟩ := read_success readHead
  obtain ⟨countDigits, sidesDigits, sidesFilled⟩ := headCut
  obtain ⟨parts, accounts⟩ := accounts_of_readSuffix readSuffix
  have keep : (parts.filterMap Part.rule?).head? = found.keep :=
    (head?_of_toList accounts.keep).1
  have burst : (parts.filterMap (Part.threshold? (Numeral.value head.sides))).head? =
      found.burst := (head?_of_toList accounts.burst).1
  have pieces : ∀ part ∈ parts, part.piece ∈ suffix := fun part member =>
    accounts.pieces ▸ List.mem_map_of_mem member
  have source : parts.flatMap Part.text = suffix.flatMap Piece.text := by
    rw [← accounts.pieces, List.flatMap_map]
    rfl
  refine ⟨⟨head.count, head.sides, parts, none⟩, ?_, rfl, ?_, accounts.ignored.symm, ?_⟩
  · exact
      { count := ⟨countDigits, countShort⟩
        sides := ⟨sidesDigits, sidesShort⟩
        sides_ne_nil := sidesFilled
        count_pos := countPos
        count_le := countLe
        sides_pos := sidesPos
        sides_le := sidesLe
        cut := fun part member => suffixCut _ (pieces part member)
        short := fun part member => accounts.short _ (pieces part member)
        parts := accounts.sound
        one_rule := (head?_of_toList accounts.keep).2
        one_threshold := (head?_of_toList accounts.burst).2
        bound := fun _ given => nomatch given }
  · simp only [Layout.term, Layout.rules, Layout.thresholds, Layout.text, keep, burst, source,
      Head.unsigned, Option.elim_none, List.append_nil]
  · simp only [Layout.text, source, Lexeme.text, Head.text, Head.unsigned,
      signText_of_not_minus unsubtracted, Option.elim_none, List.append_nil, List.append_assoc]

/-- A signed integer after sound dice with a modifier may be bound. -/
theorem Layout.IsSound.binding {limits : Limits} {layout : Layout} {number : Whole}
    (sound : layout.IsSound limits) (filled : number.digits ≠ []) (digits : IsNumeral number.digits)
    (signed : number.sign.isSome = true) (modified : layout.term.hasModifier = true) :
    (layout.binding number).IsSound limits where
  count := sound.count
  sides := sound.sides
  sides_ne_nil := sound.sides_ne_nil
  count_pos := sound.count_pos
  count_le := sound.count_le
  sides_pos := sound.sides_pos
  sides_le := sound.sides_le
  cut := sound.cut
  short := sound.short
  parts := sound.parts
  one_rule := sound.one_rule
  one_threshold := sound.one_threshold
  bound := by
    intro other given
    cases given
    exact ⟨filled, digits, signed, modified⟩

theorem Layout.text_binding {layout : Layout} (free : layout.bound = none) (number : Whole) :
    (layout.binding number).text = layout.text ++ number.text := by
  simp [Layout.text, Layout.binding, free]

theorem Layout.term_binding {layout : Layout} (free : layout.bound = none) (number : Whole) :
    (layout.binding number).term = layout.term.withBonus number.value number.text := by
  have source : (layout.binding number).term.source = layout.text ++ number.text :=
    layout.text_binding free number
  simp only [term, DiceTerm.withBonus] at source ⊢
  rw [source]
  rfl

/-- Not both are stray text. -/
def Segment.Apart (first second : Segment) : Prop :=
  ¬(first.isJunk = true ∧ second.isJunk = true)

/-- The segments account for lexemes and for what was read from them. -/
structure Tiles (limits : Limits) (list : List Lexeme) (terms : List Term) (ignored : List Text)
    (segments : List Segment) : Prop where
  text : list.flatMap Lexeme.text = segments.flatMap Segment.text
  terms : terms = segments.filterMap Segment.term?
  ignored : ignored = segments.flatMap Segment.ignored
  sound : ∀ segment ∈ segments, segment.IsSound limits
  lead : ∀ segment ∈ segments.head?, segment.isJunk = true → ∃ lexeme ∈ list.head?,
    lexeme.isStray = true
  apart : list.IsChain Lexeme.Apart → segments.IsChain Segment.Apart

namespace Tiles

variable {limits : Limits} {list : List Lexeme} {terms : List Term} {ignored : List Text}
  {segments : List Segment}

theorem nil : Tiles limits [] [] [] [] where
  text := rfl
  terms := rfl
  ignored := rfl
  sound := List.forall_mem_nil _
  lead := fun _ first => nomatch first
  apart := fun _ => List.isChain_nil

theorem junk {text : Text} (filled : text ≠ []) (rest : Tiles limits list terms ignored segments) :
    Tiles limits (.stray text :: list) terms (text :: ignored) (.junk text :: segments) where
  text := by rw [List.flatMap_cons, List.flatMap_cons, rest.text]; rfl
  terms := rest.terms
  ignored := by rw [List.flatMap_cons, rest.ignored]; rfl
  sound := List.forall_mem_cons.mpr ⟨filled, rest.sound⟩
  lead := fun _ _ _ => ⟨_, rfl, rfl⟩
  apart := by
    intro chain
    rw [List.isChain_cons] at chain
    refine List.isChain_cons.mpr ⟨fun segment first both => ?_, rest.apart chain.2⟩
    obtain ⟨lexeme, first, stray⟩ := rest.lead segment first both.2
    exact chain.1 lexeme first ⟨rfl, stray⟩

/-- A segment that holds a term may take up several lexemes. -/
theorem term (segment : Segment) (lead : List Lexeme) {term : Term}
    (found : segment.term? = some term) (sound : segment.IsSound limits)
    (text : lead.flatMap Lexeme.text = segment.text)
    (rest : Tiles limits list terms ignored segments) :
    Tiles limits (lead ++ list) (term :: terms) (segment.ignored ++ ignored)
      (segment :: segments) where
  text := by rw [List.flatMap_append, List.flatMap_cons, rest.text, text]
  terms := by rw [List.filterMap_cons_some found, rest.terms]
  ignored := by rw [List.flatMap_cons, rest.ignored]
  sound := List.forall_mem_cons.mpr ⟨sound, rest.sound⟩
  lead := by
    intro first given junk
    cases given
    cases segment with
    | junk text => exact nomatch found
    | flat | dice => exact nomatch junk
  apart := by
    intro chain
    refine List.isChain_cons.mpr ⟨fun _ _ both => ?_, rest.apart chain.right_of_append⟩
    cases segment with
    | junk text => exact nomatch found
    | flat | dice => exact nomatch both.1

theorem flat {number : Whole} (cut : number.IsCut)
    (short : number.digits.length ≤ Numeral.maxDigits)
    (rest : Tiles limits list terms ignored segments) :
    Tiles limits (.whole number :: list) (.flat ⟨number.value, number.text⟩ :: terms) ignored
      (.flat number :: segments) :=
  rest.term (.flat number) [.whole number] rfl ⟨cut.2, cut.1, short⟩
    (List.append_nil _)

theorem dice {head : Head} {suffix : List Piece} {layout : Layout} (sound : layout.IsSound limits)
    (text : (if head.sign.isSome then ['+'] else []) ++ layout.text =
      (Lexeme.dice head suffix).text) (rest : Tiles limits list terms ignored segments) :
    Tiles limits (.dice head suffix :: list) (.dice layout.term :: terms)
      (layout.dropped ++ ignored) (.dice head.sign.isSome layout :: segments) :=
  rest.term (.dice head.sign.isSome layout) [.dice head suffix] rfl sound
    ((List.append_nil _).trans text.symm)

/-- The integer after the dice is part of their segment. -/
theorem bound {head : Head} {suffix : List Piece} {layout : Layout} {number : Whole}
    (free : layout.bound = none) (sound : (layout.binding number).IsSound limits)
    (text : (if head.sign.isSome then ['+'] else []) ++ layout.text =
      (Lexeme.dice head suffix).text) (rest : Tiles limits list terms ignored segments) :
    Tiles limits (.dice head suffix :: .whole number :: list)
      (.dice (layout.binding number).term :: terms) (layout.dropped ++ ignored)
      (.dice head.sign.isSome (layout.binding number) :: segments) := by
  refine rest.term (.dice head.sign.isSome (layout.binding number))
    [.dice head suffix, .whole number] rfl sound ?_
  have source : (layout.binding number).term.source = layout.text ++ number.text :=
    layout.text_binding free number
  rw [Segment.text, source, ← List.append_assoc, text]
  simp [Lexeme.text]

end Tiles

theorem tiles_of_readTerms {limits : Limits} {expression : Text} {list : List Lexeme}
    {terms : List Term} {ignored : List Text} (cut : ∀ lexeme ∈ list, lexeme.IsCut)
    (h : readTerms limits expression list = .ok (terms, ignored)) :
    ∃ segments, Tiles limits list terms ignored segments := by
  induction list using readTerms.induct generalizing terms ignored with
  | case1 =>
    cases h
    exact ⟨[], Tiles.nil⟩
  | case2 text rest ih =>
    obtain ⟨filled, cut⟩ := List.forall_mem_cons.mp cut
    obtain ⟨⟨terms, ignored⟩, read, done⟩ := bind_success h
    cases done
    obtain ⟨segments, tiles⟩ := ih cut read
    exact ⟨_, tiles.junk filled⟩
  | case3 number rest ih =>
    obtain ⟨whole, cut⟩ := List.forall_mem_cons.mp cut
    obtain ⟨value, readWhole, h⟩ := bind_success h
    obtain ⟨⟨terms, ignored⟩, read, done⟩ := bind_success h
    obtain ⟨rfl, short⟩ := value_of_read readWhole
    cases done
    obtain ⟨segments, tiles⟩ := ih cut read
    exact ⟨_, tiles.flat whole short⟩
  | case4 head suffix number rest ih =>
    obtain ⟨dice, cut⟩ := List.forall_mem_cons.mp cut
    obtain ⟨whole, cut⟩ := List.forall_mem_cons.mp cut
    obtain ⟨⟨term, dropped⟩, readHead, h⟩ := bind_success h
    obtain ⟨value, readWhole, h⟩ := bind_success h
    obtain ⟨⟨others, lost⟩, read, done⟩ := bind_success h
    obtain ⟨layout, sound, free, rfl, rfl, text⟩ := layout_of_readDice dice.1 dice.2 readHead
    obtain ⟨rfl, short⟩ := value_of_read readWhole
    obtain ⟨segments, tiles⟩ := ih cut read
    dsimp only at done
    by_cases bound : (layout.term.hasModifier && number.sign.isSome) = true
    · rw [if_pos bound] at done
      cases done
      rw [Bool.and_eq_true] at bound
      have bindable := sound.binding whole.2 ⟨whole.1, short⟩ bound.2 bound.1
      rw [← layout.term_binding free]
      exact ⟨_, tiles.bound free bindable text⟩
    · rw [if_neg bound] at done
      cases done
      exact ⟨_, (tiles.flat whole short).dice sound text⟩
  | case5 head suffix rest noWhole ih =>
    obtain ⟨dice, cut⟩ := List.forall_mem_cons.mp cut
    rw [readTerms.eq_5 _ _ _ _ _ noWhole] at h
    obtain ⟨⟨term, dropped⟩, readHead, h⟩ := bind_success h
    obtain ⟨⟨others, lost⟩, read, done⟩ := bind_success h
    cases done
    obtain ⟨layout, sound, free, rfl, rfl, text⟩ := layout_of_readDice dice.1 dice.2 readHead
    obtain ⟨segments, tiles⟩ := ih cut read
    exact ⟨_, tiles.dice sound text⟩

/-- What is parsed is the normalized text, read lexeme by lexeme. -/
theorem parse_success {limits : Limits} {raw : Text} {parsed : Parsed}
    (h : parse limits raw = .ok parsed) :
    parsed.expression = normalize raw ∧
    readTerms limits (normalize raw) (lexemes (normalize raw)) =
      .ok (parsed.terms, parsed.ignored) := by
  obtain ⟨scanned, scan, h⟩ := bind_success h
  obtain ⟨⟨terms, ignored⟩, read, done⟩ := bind_success scan
  cases done
  split at h
  · exact nomatch h
  · cases h
    exact ⟨rfl, read⟩

/-- No text is lost: the normalized text is put together from segments, each of which is ignored
text or holds the source of a term, and a dice source in turn from its head, its parts and a bound
integer. Terms and ignored text are those of the segments, in the same order. -/
theorem parse_segments {limits : Limits} {raw : Text} {parsed : Parsed}
    (h : parse limits raw = .ok parsed) :
    ∃ segments : List Segment,
      parsed.expression = normalize raw ∧
      normalize raw = segments.flatMap Segment.text ∧
      parsed.terms = segments.filterMap Segment.term? ∧
      parsed.ignored = segments.flatMap Segment.ignored ∧
      (∀ segment ∈ segments, segment.IsSound limits) ∧
      segments.IsChain Segment.Apart := by
  obtain ⟨expression, read⟩ := parse_success h
  obtain ⟨segments, tiles⟩ := tiles_of_readTerms (isCut_lexemes _) read
  refine ⟨segments, expression, ?_, tiles.terms, tiles.ignored, tiles.sound,
    tiles.apart (isChain_lexemes _)⟩
  rw [← tiles.text, text_lexemes]

/-- Stray text at both ends, dice with a void and a stray piece and a bonus, a flat integer. -/
theorem parse_segments_stray :
    parse ⟨100, 1000, 50⟩ "?? + 2D6 dl0 x>5 zz + 3 - 1 &".toList = .ok
      { expression := "??+2d6dl0x>5zz+3-1&".toList
        terms := [.dice ⟨2, 6, none, some 5, 3, "2d6dl0x>5zz+3".toList⟩,
          .flat ⟨-1, "-1".toList⟩]
        ignored := ["??".toList, "dl0".toList, "zz".toList, "&".toList] } ∧
    ∃ segments : List Segment,
      "??+2d6dl0x>5zz+3-1&".toList = normalize "?? + 2D6 dl0 x>5 zz + 3 - 1 &".toList ∧
      normalize "?? + 2D6 dl0 x>5 zz + 3 - 1 &".toList = segments.flatMap Segment.text ∧
      [Term.dice ⟨2, 6, none, some 5, 3, "2d6dl0x>5zz+3".toList⟩, .flat ⟨-1, "-1".toList⟩] =
        segments.filterMap Segment.term? ∧
      ["??".toList, "dl0".toList, "zz".toList, "&".toList] =
        segments.flatMap Segment.ignored ∧
      (∀ segment ∈ segments, segment.IsSound ⟨100, 1000, 50⟩) ∧
      segments.IsChain Segment.Apart := by
  have parsed : parse ⟨100, 1000, 50⟩ "?? + 2D6 dl0 x>5 zz + 3 - 1 &".toList = .ok
      { expression := "??+2d6dl0x>5zz+3-1&".toList
        terms := [.dice ⟨2, 6, none, some 5, 3, "2d6dl0x>5zz+3".toList⟩,
          .flat ⟨-1, "-1".toList⟩]
        ignored := ["??".toList, "dl0".toList, "zz".toList, "&".toList] } := by cbv
  exact ⟨parsed, parse_segments parsed⟩

end Tabletop.Notation
