import Tabletop.Proofs.Fragments

/-!
# Dice behind a minus

Whatever is parsed consists of well-formed terms, and only blank text has none. Dice right behind a
minus are not among them. A minus ends every lexeme before it, so such dice are always found, and
text is refused for them unless it is refused for something before them.
-/
namespace Tabletop.Notation

variable {limits : Limits} {expression : Text}

/-- Stray text has no fault, so it makes no difference whether it is cut in one piece or in two. -/
theorem findSome?_splice (first second : List Lexeme) :
    (splice first second).findSome? (Lexeme.fault? limits expression) =
      (first.findSome? (Lexeme.fault? limits expression)).or
        (second.findSome? (Lexeme.fault? limits expression)) := by
  have stray (text : Text) : (Lexeme.stray text).fault? limits expression = none := rfl
  rcases splice_cases first second with same | ⟨lead, text, more, rest, rfl, rfl, same⟩
  · rw [same, List.findSome?_append]
  · rw [same, List.findSome?_append, List.findSome?_append, findSome?_cons_or,
      List.findSome?_singleton, findSome?_cons_or _ (Lexeme.stray more), stray, stray, stray,
      Option.or_none]

theorem Head.fault?_of_minus {head : Head} (minus : head.sign = some .minus) :
    head.fault? limits expression = some (.unreadable .subtracted expression head.text) := by
  rw [fault?, if_pos minus]
  rfl

theorem atSign_of_minus {head : Head} (minus : head.sign = some .minus) (rest : Text) :
    AtSign (head.text ++ rest) := by
  rw [Head.text, minus]
  exact atSign_cons (.inr rfl)

/-- Dice behind a minus are the first fault of a text that begins with them. -/
theorem findSome?_subtracted {head : Head} {rest : Text} (cut : head.IsCut)
    (minus : head.sign = some .minus) (ends : EndsRun rest) :
    (lexemes (head.text ++ rest)).findSome? (Lexeme.fault? limits expression) =
      some (.unreadable .subtracted expression head.text) := by
  rw [lexemes_of_head? (head?_append cut.1 cut.2.1 cut.2.2 ends), findSome?_cons_or, Lexeme.fault?,
    Head.fault?_of_minus minus]
  rfl

/-- The faults of text in front of such dice come before theirs. -/
theorem findSome?_before_subtracted {front rest : Text} {head : Head} (cut : head.IsCut)
    (minus : head.sign = some .minus) (ends : EndsRun rest) :
    (lexemes (front ++ (head.text ++ rest))).findSome? (Lexeme.fault? limits expression) =
      (faultOf? (readTerms limits expression (lexemes front))).or
        (some (.unreadable .subtracted expression head.text)) := by
  rw [lexemes_splice (atSign_of_minus minus rest), findSome?_splice, faultOf?_readTerms,
    findSome?_subtracted cut minus ends]

theorem terms_eq_nil_iff {raw : Text} {parsed : Parsed} (h : parse limits raw = .ok parsed) :
    parsed.terms = [] ↔ normalize raw = [] := by
  refine ⟨Roll.normalize_of_empty h, fun blank => ?_⟩
  obtain ⟨_, read⟩ := parse_success h
  rw [blank, lexemes_nil] at read
  exact (congrArg Prod.fst (Except.ok.inj read)).symm

/-- Parsed terms are well formed, and dice right behind a minus are never among them: text in which
scanning comes as far as such dice is refused for them, and other text for what is before them. -/
theorem parse_wellFormed (limits : Limits) (raw : Text) :
    (∀ parsed, parse limits raw = .ok parsed →
      (∀ term ∈ parsed.diceTerms, term.WellFormed limits) ∧
        (parsed.terms = [] ↔ normalize raw = [])) ∧
    ∀ (front : Text) (head : Head) (rest : Text), head.IsCut → head.sign = some .minus →
      EndsRun rest → normalize raw = front ++ (head.text ++ rest) →
      match scan limits front with
      | .ok _ => parse limits raw = .error (.unreadable .subtracted (normalize raw) head.text)
      | .error fault => ∃ found, parse limits raw = .error found ∧ found.kind = fault.kind ∧
          found.fragment = fault.fragment := by
  refine ⟨fun _ h => ⟨wellFormed_diceTerms h, terms_eq_nil_iff h⟩, ?_⟩
  intro front head rest cut minus ends text
  have first := @findSome?_before_subtracted limits (normalize raw) front rest head cut minus ends
  rw [← text] at first
  -- The front is read under its own name or under that of the whole: only the faults tell which.
  have same := mark_readTerms limits front (normalize raw) (lexemes front)
  cases read : readTerms limits front (lexemes front) with
  | ok found =>
    rw [eq_ok_of_mark same read] at first
    rw [scan_of_ok read]
    exact parse_eq_error_iff.mpr (.inl first)
  | error fault =>
    obtain ⟨found, again, alike⟩ := eq_error_of_mark same read
    rw [again] at first
    rw [scan_of_error read]
    exact ⟨found, parse_eq_error_iff.mpr (.inl first), alike⟩

/-- Eight-sided dice behind a minus, and dice with a modifier before it. -/
def minusHead : Head := ⟨some .minus, ['2'], ['8']⟩

def minusText : Text := "3D6 dl0 x - 2d8".toList

theorem parse_wellFormed_minusText :
    (parse ⟨100, 1000, 50⟩ "3d6dl0x-2".toList =
        .ok ⟨"3d6dl0x-2".toList, [.dice ⟨3, 6, none, some 6, -2, "3d6dl0x-2".toList⟩],
          ["dl0".toList]⟩ ∧
      DiceTerm.WellFormed ⟨100, 1000, 50⟩ ⟨3, 6, none, some 6, -2, "3d6dl0x-2".toList⟩) ∧
    (minusHead.IsCut ∧ minusHead.sign = some .minus ∧ EndsRun [] ∧
      normalize minusText = "3d6dl0x".toList ++ (minusHead.text ++ []) ∧
      parse ⟨100, 1000, 50⟩ minusText =
        .error (.unreadable .subtracted "3d6dl0x-2d8".toList "-2d8".toList)) := by
  have parsed : parse ⟨100, 1000, 50⟩ "3d6dl0x-2".toList =
      .ok ⟨"3d6dl0x-2".toList, [.dice ⟨3, 6, none, some 6, -2, "3d6dl0x-2".toList⟩],
        ["dl0".toList]⟩ := by cbv
  have wellFormed := ((parse_wellFormed ⟨100, 1000, 50⟩ _).1 _ parsed).1 _ List.mem_cons_self
  have cut : minusHead.IsCut :=
    ⟨List.all_eq_true.mp (by decide), List.all_eq_true.mp (by decide), by decide⟩
  have text : normalize minusText = "3d6dl0x".toList ++ (minusHead.text ++ []) := by cbv
  have refused := (parse_wellFormed ⟨100, 1000, 50⟩ minusText).2 _ _ _ cut rfl
    atSign_nil.closed.endsRun text
  have before : scan ⟨100, 1000, 50⟩ "3d6dl0x".toList =
      .ok ⟨"3d6dl0x".toList, [.dice ⟨3, 6, none, some 6, 0, "3d6dl0x".toList⟩],
        ["dl0".toList]⟩ := by cbv
  rw [before, text] at refused
  exact ⟨⟨parsed, wellFormed⟩, cut, rfl, atSign_nil.closed.endsRun, text, refused⟩

end Tabletop.Notation
