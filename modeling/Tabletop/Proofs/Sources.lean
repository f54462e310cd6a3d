import Tabletop.Proofs.Fragments

/-!
# Sources on their own

The source of a term is scanned on its own as it was in its place. Where text is cut off behind a
lexeme, none of its runs of digits and of stray text goes on otherwise than before, and of dice only
the plus in front of them is lost. What was ignored inside a source is ignored again.
-/
namespace Tabletop

namespace Notation

open Text (isDigit)

/-! ### Lexemes before a cut -/

section Cut

variable {front tail : Text} {p : Char → Bool}

theorem stops_dropWhile (p : Char → Bool) (text : Text) :
    ∀ c ∈ (text.dropWhile p).head?, p c = false := by
  intro c first
  have here := List.head?_dropWhile_not p text
  rw [Option.mem_def.mp first] at here
  exact here

/-- A run that stops before a text stops there too where the text is cut off. -/
theorem stops_of_append (stop : ∀ c ∈ (front ++ tail).head?, p c = false) :
    ∀ c ∈ front.head?, p c = false := by
  cases front with
  | nil => exact fun _ first => nomatch first
  | cons c rest => exact stop

theorem EndsRun.append (ends : EndsRun front) (next : EndsRun tail) : EndsRun (front ++ tail) := by
  cases front with
  | nil => exact next
  | cons c rest => exact endsRun_cons (ends c rfl)

theorem endsRun_of_head? {text rest : Text} {head : Head} (h : head? text = some (head, rest)) :
    EndsRun rest := by
  unfold head? at h
  split at h
  · split at h
    · contradiction
    · simp only [Option.some.injEq, Prod.mk.injEq] at h
      obtain ⟨_, rfl⟩ := h
      exact stops_dropWhile isDigit _
  · contradiction

theorem keepCode?_cut (absent : keepCode? (front ++ tail) = none) : keepCode? front = none := by
  cases found : keepCode? front with
  | none => rfl
  | some cut =>
    have text : cut.1.code ++ cut.2 = front := code_of_keepCode? found
    rw [← text, List.append_assoc, keepCode?_append] at absent
    cases absent

theorem threshold?_cut (bare : threshold? (front ++ tail) = (none, front ++ tail)) :
    threshold? front = (none, front) := by
  cases front with
  | nil => rfl
  | cons c rest =>
    by_cases mark : c = '>'
    · subst mark
      cases rest with
      | nil => rfl
      | cons a rest =>
        cases digit : isDigit a with
        | false => simp [threshold?, digit]
        | true => simp [threshold?, digit] at bare
    · simp [threshold?, mark]

theorem endsRun_threshold? {text digits rest : Text} (h : threshold? text = (some digits, rest)) :
    EndsRun rest := by
  unfold threshold? at h
  split at h
  · split at h
    · cases h
    · cases h
      exact stops_dropWhile isDigit _
  · cases h

/-- The same burst is cut where text is cut off behind it. -/
theorem piece?_cut_burst {threshold : Option Text} (modifier : (Piece.burst threshold).IsModifier)
    (h : piece? ((Piece.burst threshold).text ++ (front ++ tail)) =
      some (.burst threshold, front ++ tail)) :
    piece? ((Piece.burst threshold).text ++ front) = some (.burst threshold, front) := by
  cases threshold with
  | none =>
    simp only [Piece.text, List.singleton_append, piece?_x, Option.some.injEq, Prod.mk.injEq,
      Piece.burst.injEq] at h ⊢
    exact Prod.mk.inj (threshold?_cut (Prod.ext h.1 h.2))
  | some digits =>
    obtain ⟨filled, all⟩ := modifier digits rfl
    simp only [Piece.text, List.cons_append, piece?_x, Option.some.injEq, Prod.mk.injEq,
      Piece.burst.injEq] at h ⊢
    have ends : EndsRun front := stops_of_append (endsRun_threshold? (Prod.ext h.1 h.2))
    exact Prod.mk.inj (threshold?_run filled all ends)

/-- Stray text begins with no modifier and runs as far as it can. -/
theorem piece?_eq_stray_iff {c : Char} {text run rest : Text} :
    piece? (c :: text) = some (.stray (c :: run), rest) ↔
      keepCode? (c :: text) = none ∧ c ≠ 'x' ∧ startsStray c = true ∧
        text.takeWhile continuesStray = run ∧ text.dropWhile continuesStray = rest := by
  unfold piece?
  cases keepCode? (c :: text) with
  | some cut => simp
  | none =>
    by_cases burst : c = 'x'
    · subst burst
      simp
    · cases starts : startsStray c <;> simp [burst, starts]

theorem piece?_cut_stray {c : Char} {run : Text}
    (h : piece? (c :: run ++ (front ++ tail)) = some (.stray (c :: run), front ++ tail)) :
    piece? (c :: run ++ front) = some (.stray (c :: run), front) := by
  rw [List.cons_append, piece?_eq_stray_iff] at h ⊢
  obtain ⟨code, burst, starts, taken, left⟩ := h
  rw [← List.append_assoc, ← List.cons_append] at code
  have inside : ∀ c ∈ run, continuesStray c = true := by
    rw [← taken]
    exact fun _ => List.mem_takeWhile_imp
  have stop : ∀ c ∈ front.head?, continuesStray c = false :=
    stops_of_append (left ▸ stops_dropWhile continuesStray _)
  refine ⟨keepCode?_cut code, burst, starts, ?_, ?_⟩
  · rw [takeWhile_splice stop, List.takeWhile_eq_self_iff.mpr inside]
  · rw [dropWhile_splice stop, List.dropWhile_eq_nil_iff.mpr inside, List.nil_append]

/-- A piece is cut the same where text is cut off behind it. -/
theorem piece?_cut {piece : Piece}
    (h : piece? (piece.text ++ (front ++ tail)) = some (piece, front ++ tail)) :
    piece? (piece.text ++ front) = some (piece, front) := by
  have cut : piece.IsCut := isCut_of_piece? h
  cases piece with
  | keep kind amount =>
    simp only [Piece.text, List.append_assoc, piece?, keepCode?_append, Option.some.injEq,
      Prod.mk.injEq] at h
    exact piece?_keep kind cut (stops_of_append (h.2 ▸ stops_dropWhile isDigit _))
  | burst threshold => exact piece?_cut_burst cut h
  | stray text =>
    obtain ⟨c, run, rfl⟩ := List.exists_cons_of_ne_nil cut
    exact piece?_cut_stray h

/-- The pieces of a suffix are cut again from their own text. -/
theorem pieces_alone (text : Text) :
    pieces ((pieces text).1.flatMap Piece.text) = ((pieces text).1, []) := by
  fun_induction pieces text with
  | case1 => exact pieces_of_none rfl
  | case2 text piece rest h ih =>
    have whole := text_of_piece? h
    rw [← whole, ← text_pieces rest] at h
    rw [List.flatMap_cons, pieces_of_some (piece?_cut h), ih]

end Cut

/-! ### Lexemes on their own -/

/-- The head without a sign. -/
def Head.bare (head : Head) : Head := { head with sign := none }

/-- Where its text stands alone, the lexeme is cut from it again. -/
def Lexeme.StandsAlone : Lexeme → Prop
  | .dice head suffix => head.IsCut ∧ EndsRun (suffix.flatMap Piece.text) ∧
      pieces (suffix.flatMap Piece.text) = (suffix, [])
  | .whole number => number.IsCut
  | .stray _ => True

theorem standsAlone_consStray {c : Char} {list : List Lexeme}
    (alone : ∀ lexeme ∈ list, lexeme.StandsAlone) :
    ∀ lexeme ∈ consStray c list, lexeme.StandsAlone := by
  unfold consStray
  split
  next text rest => exact List.forall_mem_cons.mpr ⟨trivial, (List.forall_mem_cons.mp alone).2⟩
  next => exact List.forall_mem_cons.mpr ⟨trivial, alone⟩

theorem standsAlone_lexemes (text : Text) : ∀ lexeme ∈ lexemes text, lexeme.StandsAlone := by
  fun_induction lexemes text with
  | case1 text head rest h ih =>
    have ends : EndsRun ((pieces rest).1.flatMap Piece.text ++ (pieces rest).2) :=
      (text_pieces rest).symm ▸ endsRun_of_head? h
    exact List.forall_mem_cons.mpr
      ⟨⟨isCut_of_head? h, stops_of_append ends, pieces_alone rest⟩, ih⟩
  | case2 text _ number rest h ih => exact List.forall_mem_cons.mpr ⟨isCut_of_whole? h, ih⟩
  | case3 => exact List.forall_mem_nil _
  | case4 _ _ c rest ih => exact standsAlone_consStray ih

/-- Dice that stand alone, but for text that begins with a sign. -/
theorem lexemes_dice_append {head : Head} {suffix : List Piece} {next : Text}
    (alone : (Lexeme.dice head suffix).StandsAlone) (atSign : AtSign next) :
    lexemes (head.unsigned ++ suffix.flatMap Piece.text ++ next) =
      .dice head.bare suffix :: lexemes next := by
  obtain ⟨⟨count, sides, filled⟩, ends, cut⟩ := alone
  have found : head? (head.bare.text ++ (suffix.flatMap Piece.text ++ next)) =
      some (head.bare, suffix.flatMap Piece.text ++ next) :=
    head?_append count sides filled (ends.append atSign.closed.endsRun)
  have unsigned : head.bare.text = head.unsigned := rfl
  rw [unsigned, ← List.append_assoc] at found
  rw [lexemes_of_head? found, pieces_splice atSign, cut, List.nil_append]

theorem lexemes_whole_alone {number : Whole} (cut : number.IsCut) :
    lexemes number.text = [.whole number] := by
  have noHead := head?_whole cut.1 cut.2 atSign_nil
  have found := whole?_append cut.1 cut.2 atSign_nil
  rw [List.append_nil] at noHead found
  rw [lexemes_of_whole? noHead found, lexemes_nil]

theorem atSign_whole {number : Whole} (signed : number.sign.isSome = true) :
    AtSign number.text := by
  obtain ⟨sign, given⟩ := Option.isSome_iff_exists.mp signed
  rw [Whole.text, given]
  cases sign
  · exact atSign_cons (.inl rfl)
  · exact atSign_cons (.inr rfl)

/-! ### Reading a source -/

section Reading

variable {limits : Limits} {expression : Text}

/-- A plus in front of dice makes no difference to them. -/
theorem Head.read_bare {head : Head} {found : Nat × Nat}
    (h : head.read limits expression = .ok found) :
    head.bare.read limits expression = .ok found := by
  have unsigned : head.bare.sign ≠ some .minus := nofun
  rw [Head.read_eq] at h
  rw [Head.read_eq, if_neg unsigned]
  split at h
  · cases h
  obtain ⟨count, readCount, h⟩ := bind_success h
  obtain ⟨sides, readSides, h⟩ := bind_success h
  split at h
  · cases h
  next fine => simp only [bare, readCount, readSides, fine, bind, Except.bind, h]

theorem readDice_bare {head : Head} {suffix : List Piece} {found : DiceTerm × List Text}
    (h : readDice limits expression head suffix = .ok found) :
    readDice limits expression head.bare suffix = .ok found := by
  obtain ⟨counts, read, h⟩ := bind_success h
  rw [readDice, head.read_bare read]
  exact h

theorem source_of_readDice {head : Head} {suffix : List Piece} {found : DiceTerm × List Text}
    (h : readDice limits expression head suffix = .ok found) :
    found.1.source = head.unsigned ++ suffix.flatMap Piece.text := by
  obtain ⟨counts, _, h⟩ := bind_success h
  obtain ⟨others, _, done⟩ := bind_success h
  cases done
  rfl

/-- Read on its own the source of the term gives the term, and ignores a part of what is ignored. -/
def ReadsAlone (limits : Limits) (expression : Text) (ignored : List Text) (term : Term) : Prop :=
  ∃ own, own <:+: ignored ∧ readTerms limits expression (lexemes term.source) = .ok ([term], own)

theorem ReadsAlone.append {ignored : List Text} {term : Term} (dropped : List Text)
    (reads : ReadsAlone limits expression ignored term) :
    ReadsAlone limits expression (dropped ++ ignored) term := by
  obtain ⟨own, part, read⟩ := reads
  exact ⟨own, part.trans (List.suffix_append _ _).isInfix, read⟩

theorem readsAlone_flat {number : Whole} {value : Int} (cut : number.IsCut)
    (read : number.read = .ok value) (ignored : List Text) :
    ReadsAlone limits expression ignored (.flat ⟨value, number.text⟩) := by
  refine ⟨[], List.nil_infix, ?_⟩
  rw [Term.source, lexemes_whole_alone cut]
  exact readTerms_whole read rfl

theorem readsAlone_dice {head : Head} {suffix : List Piece} {term : DiceTerm}
    {dropped : List Text} (alone : (Lexeme.dice head suffix).StandsAlone)
    (read : readDice limits expression head suffix = .ok (term, dropped)) (ignored : List Text) :
    ReadsAlone limits expression (dropped ++ ignored) (.dice term) := by
  have list := lexemes_dice_append alone atSign_nil
  have source := source_of_readDice read
  rw [List.append_nil, lexemes_nil, ← source] at list
  refine ⟨dropped, (List.prefix_append _ _).isInfix, ?_⟩
  rw [Term.source, list]
  have nothing : readTerms limits expression [] = .ok ([], []) := rfl
  have found := readTerms_dice (readDice_bare read) nothing nofun
  rwa [List.append_nil] at found

theorem readsAlone_bound {head : Head} {suffix : List Piece} {term : DiceTerm}
    {dropped : List Text} {number : Whole} {value : Int}
    (alone : (Lexeme.dice head suffix).StandsAlone) (cut : number.IsCut)
    (read : readDice limits expression head suffix = .ok (term, dropped))
    (readWhole : number.read = .ok value)
    (bound : (term.hasModifier && number.sign.isSome) = true) (ignored : List Text) :
    ReadsAlone limits expression (dropped ++ ignored)
      (.dice (term.withBonus value number.text)) := by
  have list := lexemes_dice_append alone (atSign_whole (Bool.and_eq_true_iff.mp bound).2)
  have source : (term.withBonus value number.text).source =
      head.unsigned ++ suffix.flatMap Piece.text ++ number.text :=
    congrArg (· ++ number.text) (source_of_readDice read)
  rw [← source, lexemes_whole_alone cut] at list
  refine ⟨dropped, (List.prefix_append _ _).isInfix, ?_⟩
  rw [Term.source, list]
  have nothing : readTerms limits expression [] = .ok ([], []) := rfl
  have found := readTerms_bound (readDice_bare read) readWhole nothing bound
  rwa [List.append_nil] at found

/-- Each term of a reading is read again from its source. -/
theorem readsAlone_of_readTerms {list : List Lexeme} {terms : List Term} {ignored : List Text}
    (alone : ∀ lexeme ∈ list, lexeme.StandsAlone)
    (h : readTerms limits expression list = .ok (terms, ignored)) :
    ∀ term ∈ terms, ReadsAlone limits expression ignored term := by
  induction list using readTerms.induct generalizing terms ignored with
  | case1 =>
    cases h
    exact List.forall_mem_nil _
  | case2 text rest ih =>
    obtain ⟨⟨terms, ignored⟩, read, done⟩ := bind_success h
    cases done
    exact fun term member =>
      (ih (List.forall_mem_cons.mp alone).2 read term member).append [text]
  | case3 number rest ih =>
    obtain ⟨whole, alone⟩ := List.forall_mem_cons.mp alone
    obtain ⟨value, readWhole, h⟩ := bind_success h
    obtain ⟨⟨terms, ignored⟩, read, done⟩ := bind_success h
    cases done
    exact List.forall_mem_cons.mpr ⟨readsAlone_flat whole readWhole _, ih alone read⟩
  | case4 head suffix number rest ih =>
    obtain ⟨dice, alone⟩ := List.forall_mem_cons.mp alone
    obtain ⟨whole, alone⟩ := List.forall_mem_cons.mp alone
    obtain ⟨⟨term, dropped⟩, readHead, h⟩ := bind_success h
    obtain ⟨value, readWhole, h⟩ := bind_success h
    obtain ⟨⟨others, lost⟩, read, done⟩ := bind_success h
    have rest := fun term member => (ih alone read term member).append dropped
    dsimp only at done
    by_cases bound : (term.hasModifier && number.sign.isSome) = true
    · rw [if_pos bound] at done
      cases done
      exact List.forall_mem_cons.mpr
        ⟨readsAlone_bound dice whole readHead readWhole bound lost, rest⟩
    · rw [if_neg bound] at done
      cases done
      exact List.forall_mem_cons.mpr ⟨readsAlone_dice dice readHead lost,
        List.forall_mem_cons.mpr ⟨readsAlone_flat whole readWhole _, rest⟩⟩
  | case5 head suffix rest noWhole ih =>
    obtain ⟨dice, alone⟩ := List.forall_mem_cons.mp alone
    rw [readTerms.eq_5 _ _ _ _ _ noWhole] at h
    obtain ⟨⟨term, dropped⟩, readHead, h⟩ := bind_success h
    obtain ⟨⟨others, lost⟩, read, done⟩ := bind_success h
    cases done
    exact List.forall_mem_cons.mpr ⟨readsAlone_dice dice readHead lost,
      fun term member => (ih alone read term member).append dropped⟩

end Reading

theorem normalize_source {limits : Limits} {raw : Text} {parsed : Parsed}
    (h : parse limits raw = .ok parsed) {term : Term} (member : term ∈ parsed.terms) :
    normalize term.source = term.source := by
  have part := infix_normalize h term member
  exact normalize_eq_self_iff.mpr ((isNormal_normalize raw).of_subset part.subset)

/-- The source of a term stands on its own. Scanned alone under the same limits it gives that term
and no other, and it ignores a part of what was ignored around it. Parsing it comes to the same. -/
theorem scan_source {limits : Limits} {raw : Text} {parsed : Parsed}
    (h : parse limits raw = .ok parsed) : ∀ term ∈ parsed.terms, ∃ own, own <:+: parsed.ignored ∧
      scan limits term.source = .ok ⟨term.source, [term], own⟩ ∧
      parse limits term.source = .ok ⟨term.source, [term], own⟩ := by
  intro term member
  obtain ⟨_, read⟩ := parse_success h
  obtain ⟨own, part, alone⟩ := readsAlone_of_readTerms (standsAlone_lexemes _) read term member
  -- A fault would name the expression that is read, but there is none.
  have here : readTerms limits term.source (lexemes term.source) = .ok ([term], own) :=
    eq_ok_of_mark (mark_readTerms limits (normalize raw) term.source _) alone
  have scanned := scan_of_ok here
  refine ⟨own, part, scanned, ?_⟩
  rw [parse, normalize_source h member, scanned]
  rfl

/-- Dice with a void piece and stray digits, right before dice with stray text and a bonus. -/
def packedText : Text := "?2D6 dl0 xk 5d8 kl z+03".toList

def packedDice : DiceTerm := ⟨1, 8, some ⟨.keepLowest, 1⟩, none, 3, "d8klz+03".toList⟩

def packedParsed : Parsed where
  expression := "?2d6dl0xk5d8klz+03".toList
  terms := [.dice ⟨2, 6, none, some 6, 0, "2d6dl0xk5".toList⟩, .dice packedDice]
  ignored := ["?".toList, "dl0".toList, "k5".toList, "z".toList]

theorem scan_source_packedText : parse ⟨100, 1000, 50⟩ packedText = .ok packedParsed ∧
    .dice packedDice ∈ packedParsed.terms ∧ ∃ own, own <:+: packedParsed.ignored ∧
      scan ⟨100, 1000, 50⟩ "d8klz+03".toList =
        .ok ⟨"d8klz+03".toList, [.dice packedDice], own⟩ ∧
      parse ⟨100, 1000, 50⟩ "d8klz+03".toList =
        .ok ⟨"d8klz+03".toList, [.dice packedDice], own⟩ := by
  have parsed : parse ⟨100, 1000, 50⟩ packedText = .ok packedParsed := by cbv
  have member : .dice packedDice ∈ packedParsed.terms :=
    List.mem_cons_of_mem _ List.mem_cons_self
  exact ⟨parsed, member, scan_source parsed _ member⟩

end Notation

end Tabletop
