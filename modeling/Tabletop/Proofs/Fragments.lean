import Tabletop.Proofs.Commands
import Tabletop.Proofs.Endings
import Tabletop.Proofs.FirstFault
import Tabletop.Proofs.Splicing

/-!
# The text at fault

The fragment that a fault names is a piece of its expression. A piece that cannot be read is refused
on its own for the same reason, since dice are judged without a look at what stands around them.
A fault of rolling names the source of the first term that fails. Nothing is said here about
numbers that are too long: those faults name no expression.
-/
namespace Tabletop

/-- A fault with a kind of its own is worded as it is. -/
theorem Fault.worded_of_kind {writable : Bool} {fault : Fault}
    (kind : (worded writable fault).kind ≠ .value) : worded writable fault = fault := by
  cases writable with
  | true => rfl
  | false => exact absurd rfl kind

/-- The text that the term was read from. -/
def Term.source : Term → Text
  | .dice term => term.source
  | .flat term => term.source

namespace Notation

variable {limits : Limits} {expression : Text} {fault : Fault}

theorem kind_of_overlong? {digits : Text} (h : overlong? digits = some fault) :
    fault.kind = .value := by
  unfold overlong? at h
  split at h
  · cases h
    rfl
  · cases h

/-- What is refused of a head is the head itself. -/
theorem Head.unreadable_of_fault? {head : Head} (h : head.fault? limits expression = some fault)
    (kind : fault.kind ≠ .value) : ∃ flaw, fault = .unreadable flaw expression head.text := by
  unfold Head.fault? at h
  split at h
  · cases h
    exact ⟨_, Fault.worded_of_kind kind⟩
  · rcases Option.or_eq_some_iff.mp h with count | ⟨_, h⟩
    · exact absurd (kind_of_overlong? count) kind
    rcases Option.or_eq_some_iff.mp h with sides | ⟨_, h⟩
    · exact absurd (kind_of_overlong? sides) kind
    obtain ⟨flaw, _, rfl⟩ := Option.map_eq_some_iff.mp h
    exact ⟨flaw, Fault.worded_of_kind kind⟩

theorem Piece.kind_of_fault? {piece : Piece} (h : piece.fault? = some fault) :
    fault.kind = .value := by
  cases piece with
  | keep kind amount => exact kind_of_overlong? h
  | burst threshold =>
    obtain ⟨digits, _, long⟩ := Option.bind_eq_some_iff.mp h
    exact kind_of_overlong? long
  | stray text => cases h

/-- Of all lexemes only dice are refused, and only for their head. -/
theorem Lexeme.refused {lexeme : Lexeme} (h : lexeme.fault? limits expression = some fault)
    (kind : fault.kind ≠ .value) :
    ∃ head suffix, lexeme = .dice head suffix ∧ head.fault? limits expression = some fault := by
  cases lexeme with
  | whole number => exact absurd (kind_of_overlong? h) kind
  | stray text => cases h
  | dice head suffix =>
    rcases Option.or_eq_some_iff.mp h with here | ⟨_, h⟩
    · exact ⟨head, suffix, rfl, here⟩
    obtain ⟨piece, _, long⟩ := List.exists_of_findSome?_eq_some h
    exact absurd (Piece.kind_of_fault? long) kind

/-! ### Heads on their own -/

theorem Head.IsCut.marks {head : Head} (cut : head.IsCut) :
    ∀ c ∈ head.text, Text.isMark c = true := by
  have sign : ∀ c ∈ signText head.sign, Text.isMark c = true := by
    cases head.sign with
    | none => exact List.forall_mem_nil _
    | some sign => cases sign <;> exact List.all_eq_true.mp (by decide)
  simp only [Head.text, Head.unsigned, List.forall_mem_append, List.forall_mem_cons]
  exact ⟨sign, fun c member => isMark_of_isDigit (cut.1 c member), by decide,
    fun c member => isMark_of_isDigit (cut.2.1 c member)⟩

theorem Head.IsCut.normalize_text {head : Head} (cut : head.IsCut) :
    normalize head.text = head.text :=
  normalize_of_marks cut.marks (Text.spelled_of_marks cut.marks)

theorem Head.IsCut.lexemes_text {head : Head} (cut : head.IsCut) :
    lexemes head.text = [.dice head []] := by
  have found := head?_append cut.1 cut.2.1 cut.2.2 atSign_nil.closed.endsRun
  rw [List.append_nil] at found
  rw [lexemes_of_head? found, pieces_of_none rfl, lexemes_nil]

/-- A head that is refused somewhere is refused on its own. -/
theorem Head.IsCut.parse_text {head : Head} (cut : head.IsCut)
    (refused : head.fault? limits expression = some fault) :
    ∃ found, parse limits head.text = .error found ∧ found.kind = fault.kind ∧
      found.fragment = fault.fragment := by
  rw [← faultOf?_readHead, faultOf?_eq_some_iff] at refused
  obtain ⟨found, again, same⟩ :=
    eq_error_of_mark (mark_readHead limits expression head.text head) refused
  refine ⟨found, parse_eq_error_iff.mpr (.inl ?_), same⟩
  rw [cut.normalize_text, cut.lexemes_text, List.findSome?_singleton, Lexeme.fault?,
    ← faultOf?_readHead, again]
  rfl

/-! ### Pieces of the expression -/

theorem infix_flatMap {α : Type} (part : α → Text) {a : α} {list : List α} (member : a ∈ list) :
    part a <:+: list.flatMap part := by
  rw [List.flatMap_def]
  exact List.infix_of_mem_flatten (List.mem_map_of_mem member)

theorem infix_of_mem_lexemes {text : Text} {lexeme : Lexeme} (member : lexeme ∈ lexemes text) :
    lexeme.text <:+: text := by
  have inside := infix_flatMap Lexeme.text member
  rwa [text_lexemes] at inside

/-- The source of a term is a piece of the expression. -/
theorem infix_normalize {raw : Text} {parsed : Parsed} (read : parse limits raw = .ok parsed) :
    ∀ term ∈ parsed.terms, term.source <:+: normalize raw := by
  intro term member
  obtain ⟨segments, _, text, terms, _⟩ := parse_segments read
  rw [terms] at member
  obtain ⟨segment, inside, found⟩ := List.mem_filterMap.mp member
  have part : segment.text <:+: normalize raw := text ▸ infix_flatMap Segment.text inside
  cases segment with
  | junk text => cases found
  | flat number =>
    cases found
    exact part
  | dice plus layout =>
    cases found
    exact (List.suffix_append _ _).isInfix.trans part

theorem source_infix {raw : Text} {parsed : Parsed} (read : parse limits raw = .ok parsed) :
    ∀ term ∈ parsed.diceTerms, term.source <:+: normalize raw := by
  intro term member
  obtain ⟨other, inside, found⟩ := List.mem_filterMap.mp member
  have part := infix_normalize read other inside
  cases other with
  | flat other => cases found
  | dice other =>
    cases found
    exact part

/-- Text is refused with the head at fault or as a whole, and the fragment alone is refused too. -/
theorem unreadable_of_parse {raw : Text} (h : parse limits raw = .error fault)
    (kind : fault.kind ≠ .value) :
    ∃ flaw fragment, fault = .unreadable flaw (normalize raw) fragment ∧
      fragment <:+: normalize raw ∧
      ∃ found, parse limits fragment = .error found ∧ found.kind = .parse ∧
        found.fragment = some fragment := by
  rcases parse_eq_error_iff.mp h with first | ⟨⟨ignored, read⟩, filled, rfl⟩
  · obtain ⟨lexeme, member, here⟩ := List.exists_of_findSome?_eq_some first
    obtain ⟨head, suffix, rfl, refused⟩ := Lexeme.refused here kind
    obtain ⟨flaw, rfl⟩ := Head.unreadable_of_fault? refused kind
    have cut : head.IsCut := (isCut_lexemes _ _ member).1
    have front : head.text <:+: (Lexeme.dice head suffix).text := (List.prefix_append _ _).isInfix
    exact ⟨flaw, head.text, rfl, front.trans (infix_of_mem_lexemes member), cut.parse_text refused⟩
  · have again : parse limits (normalize raw) =
        .error (.unreadable (.nothingFound (normalize raw)) (normalize raw) (normalize raw)) := by
      refine parse_eq_error_iff.mpr (.inr ?_)
      rw [normalize_normalize]
      exact ⟨⟨ignored, read⟩, filled, rfl⟩
    exact ⟨_, normalize raw, rfl, List.infix_refl _, _, again, rfl, rfl⟩

end Notation

open Notation (normalize parse)

variable {σ : Type} [DrawSource σ]

/-- An evaluation fails for a value that is no face or for its bursts. -/
theorem DiceTerm.fault_of_evaluate {term : DiceTerm} {limit : Int} {source after : σ}
    {fault : Fault}
    (failed : (term.evaluate limit : Rolling σ _).run.run source = (.error fault, after))
    (kind : fault.kind ≠ .value) :
    (∃ value, fault = .refusedDraw [] term value) ∨ fault = .burstTooOften [] term limit := by
  rw [run_evaluate] at failed
  have ended := congrArg Prod.fst failed
  dsimp only at ended
  cases ends : (term.ending limit (DrawSource.answer source term.sides)).1 with
  | refused value =>
    rw [ends, Ending.outcome] at ended
    cases ended
    exact .inl ⟨value, Fault.worded_of_kind kind⟩
  | burstTooOften =>
    rw [ends, Ending.outcome] at ended
    cases ended
    exact .inr (Fault.worded_of_kind kind)
  | rolled =>
    rw [ends, Ending.outcome] at ended
    split at ended
    · cases ended
    · cases ended
      exact absurd rfl kind

/-- The fault of rolling an expression names it, and points at the text that is at fault. -/
structure Fault.Points (limits : Limits) (raw : Text) (source : σ) (fault : Fault) : Prop where
  expression : fault.expression = normalize raw
  silent : fault.fragment = none ↔ fault.kind = .empty
  inside : ∀ fragment ∈ fault.fragment, fragment <:+: normalize raw
  alone : fault.kind = .parse → ∀ fragment ∈ fault.fragment, ∃ found,
    parse limits fragment = .error found ∧ found.kind = .parse ∧ found.fragment = some fragment
  /-- The terms before the one that fails were rolled. -/
  blamed : fault.kind = .bursts ∨ fault.kind = .draw →
    ∃ parsed front term rest groups between found after,
      parse limits raw = .ok parsed ∧ parsed.diceTerms = front ++ term :: rest ∧
      (Roll.groupsOf limits.bursts front : Rolling σ _).run.run source = (.ok groups, between) ∧
      (term.evaluate limits.bursts : Rolling σ _).run.run between = (.error found, after) ∧
      found.kind = fault.kind ∧ fault.fragment = some term.source

namespace Roll

variable {limits : Limits} {raw : Text} {source after : σ} {fault : Fault}

theorem points_of_unread (unread : parse limits raw = .error fault) (kind : fault.kind ≠ .value) :
    fault.Points limits raw source := by
  obtain ⟨flaw, fragment, rfl, inside, alone⟩ := Notation.unreadable_of_parse unread kind
  exact
    { expression := rfl
      silent := ⟨(nomatch ·), (nomatch ·)⟩
      inside := by
        intro other given
        cases given
        exact inside
      alone := by
        intro _ other given
        cases given
        exact alone
      blamed := by rintro (bursts | draw) <;> contradiction }

theorem normalize_of_empty {parsed : Parsed} (read : parse limits raw = .ok parsed)
    (empty : parsed.terms = []) : normalize raw = [] := by
  obtain ⟨same, terms⟩ := Notation.parse_success read
  by_contra filled
  rw [empty] at terms
  have refused := Notation.parse_eq_error_iff.mpr (.inr ⟨⟨_, terms⟩, filled, rfl⟩)
  cases read.symm.trans refused

theorem points_of_rolling {parsed : Parsed} {front rest : List DiceTerm} {term : DiceTerm}
    {groups : List DiceGroup} {between : σ} (read : parse limits raw = .ok parsed)
    (place : parsed.diceTerms = front ++ term :: rest)
    (before : (groupsOf limits.bursts front : Rolling σ _).run.run source = (.ok groups, between))
    (failed : (term.evaluate limits.bursts : Rolling σ _).run.run between = (.error fault, after))
    (kind : fault.kind ≠ .value) : (fault.within parsed.expression).Points limits raw source := by
  have expression := (Notation.parse_success read).1
  have inside : term.source <:+: normalize raw := Notation.source_infix read term (by simp [place])
  have named : (fault.within parsed.expression).expression = normalize raw ∧
      (fault.within parsed.expression).fragment = some term.source ∧
      (fault.kind = .bursts ∨ fault.kind = .draw) := by
    rcases DiceTerm.fault_of_evaluate failed kind with ⟨value, rfl⟩ | rfl
    · exact ⟨expression, rfl, .inr rfl⟩
    · exact ⟨expression, rfl, .inl rfl⟩
  obtain ⟨expression, fragment, late⟩ := named
  exact
    { expression := expression
      silent := by
        rw [fragment, Fault.kind_within]
        rcases late with late | late <;> simp [late]
      inside := by
        rw [fragment]
        intro other given
        cases given
        exact inside
      alone := by
        rw [Fault.kind_within]
        rcases late with late | late <;> simp [late]
      blamed := fun _ => ⟨parsed, front, term, rest, groups, between, fault, after, read, place,
        before, failed, (Fault.kind_within _ fault).symm, fragment⟩ }

theorem points_of_failure (failure : Failure limits raw source fault after)
    (kind : fault.kind ≠ .value) : fault.Points limits raw source := by
  cases failure with
  | reading unread => exact points_of_unread unread kind
  | nothing read empty =>
    exact
      { expression := (normalize_of_empty read empty).symm
        silent := ⟨fun _ => rfl, fun _ => rfl⟩
        inside := fun _ given => nomatch given
        alone := fun parse => nomatch parse
        blamed := by rintro (bursts | draw) <;> contradiction }
  | rolling read place before failed =>
    rw [Fault.kind_within] at kind
    exact points_of_rolling read place before failed kind

/-- The errors that a roll has of its own. Blank text alone is nothing to roll. -/
theorem kind_of_failure (failure : Failure limits raw source fault after)
    (kind : fault.kind ≠ .value) :
    fault.kind = .parse ∨ (fault.kind = .empty ∧ normalize raw = []) ∨ fault.kind = .bursts ∨
      fault.kind = .draw := by
  cases failure with
  | reading unread =>
    obtain ⟨_, _, rfl, _⟩ := Notation.unreadable_of_parse unread kind
    exact .inl rfl
  | nothing read empty => exact .inr (.inl ⟨rfl, normalize_of_empty read empty⟩)
  | rolling read place before failed =>
    rw [Fault.kind_within] at kind ⊢
    rcases DiceTerm.fault_of_evaluate failed kind with ⟨value, rfl⟩ | rfl
    · exact .inr (.inr (.inr rfl))
    · exact .inr (.inr (.inl rfl))

theorem exists_empty_iff :
    (∃ fault after, Failure limits raw source fault after ∧ fault.kind = .empty) ↔
      normalize raw = [] := by
  constructor
  · rintro ⟨fault, after, failure, kind⟩
    have cases := kind_of_failure failure (by simp [kind])
    simpa [kind] using cases
  · intro blank
    have read : parse limits raw = .ok ⟨[], [], []⟩ := by
      rw [parse, Notation.scan, blank, Notation.lexemes_nil]
      rfl
    exact ⟨_, source, .nothing read rfl, rfl⟩

end Roll

/-- A roll has nothing to roll exactly if its text is blank. A fault of its own names the normalized
text and points into it: at a part that is refused in the same way when it stands alone, or at the
source of the first term that fails, the terms before it having been rolled. -/
theorem Room.roll_points {room : Room σ} {place : Nat} {table : Table σ}
    (found : room.table? place = some table) (raw : Text) (options : RollOptions) :
    ((∃ fault, (room.roll place raw options).1 = .error fault ∧ fault.kind = .empty) ↔
      normalize raw = []) ∧
    ∀ fault, (room.roll place raw options).1 = .error fault → fault.kind ≠ .value →
      fault.Points table.limits raw table.source := by
  simp only [roll_eq_error_iff found]
  constructor
  · rw [← @Roll.exists_empty_iff _ _ table.limits raw table.source]
    constructor
    · rintro ⟨fault, ⟨after, failure⟩ | ⟨_, _, _, _, rfl⟩, kind⟩
      · exact ⟨fault, after, failure, kind⟩
      · cases kind
    · rintro ⟨fault, after, failure, kind⟩
      exact ⟨fault, .inl ⟨after, failure⟩, kind⟩
  · rintro fault (⟨after, failure⟩ | ⟨_, _, _, _, rfl⟩) kind
    · exact Roll.points_of_failure failure kind
    · exact absurd rfl kind

/-! ### A second term with more bursts than are allowed -/

def wildText : Text := "2d6 + 60D6x - 1".toList

def tameDice : DiceTerm := ⟨2, 6, none, none, 0, "2d6".toList⟩

def wildDice : DiceTerm := ⟨60, 6, none, some 6, -1, "60d6x-1".toList⟩

def tameGroup : DiceGroup := ⟨some tameDice, 6, 2, [⟨6, 6, true, false⟩, ⟨6, 6, true, false⟩], 12⟩

theorem parse_wildText : parse ⟨100, 1000, 50⟩ wildText =
    .ok ⟨"2d6+60d6x-1".toList, [.dice tameDice, .dice wildDice], []⟩ := by cbv

theorem failure_wildText : ∃ after, Roll.Failure ⟨100, 1000, 50⟩ wildText
    (Tally.start Supply.highest) (.burstTooOften "2d6+60d6x-1".toList wildDice 50) after := by
  have writable := Notation.writable_of_parse parse_wildText
  have tame : tameDice.isWritable = true := writable _ List.mem_cons_self
  have wild : wildDice.isWritable = true :=
    writable _ (List.mem_cons_of_mem _ List.mem_cons_self)
  have before : (Roll.groupsOf 50 [tameDice] : Rolling (Tally Supply) _).run.run
      (.start .highest) = (.ok [tameGroup], ⟨.highest, [6, 6]⟩) := by
    rw [Roll.groupsOf, Roll.groupsOf, DiceTerm.evaluate, tame]
    cbv
  have told : Fault.ofBursts wildDice 50 = .burstTooOften [] wildDice 50 := by
    have fifty : Numeral.fits 50 = true := Numeral.fits_small (n := 50) (by decide)
    rw [Fault.ofBursts, wild, fifty]
    rfl
  have ends : wildDice.ending 50 (DrawSource.answer (Tally.mk Supply.highest [6, 6]) 6) =
      (.burstTooOften, 110) := by cbv
  have failed := wildDice.run_evaluate 50 (Tally.mk Supply.highest [6, 6])
  rw [show wildDice.sides = 6 from rfl, ends, DiceTerm.Ending.outcome, told] at failed
  exact ⟨_, .rolling parse_wildText rfl before failed⟩

theorem Room.roll_wildText : (talliedRoom.roll 0 wildText {}).1 =
    .error (.burstTooOften "2d6+60d6x-1".toList wildDice 50) := by
  obtain ⟨table, found, limits, source⟩ : ∃ table, talliedRoom.table? 0 = some table ∧
      table.limits = ⟨100, 1000, 50⟩ ∧ table.source = .start .highest := ⟨_, rfl, rfl, rfl⟩
  have failure := failure_wildText
  rw [← limits, ← source] at failure
  exact (roll_eq_error_iff found).mpr (.inl failure)

theorem Room.roll_points_wildText :
    (Fault.burstTooOften "2d6+60d6x-1".toList wildDice 50).Points ⟨100, 1000, 50⟩ wildText
      (Tally.start Supply.highest) ∧
    (Fault.burstTooOften "2d6+60d6x-1".toList wildDice 50).fragment = some "60d6x-1".toList := by
  obtain ⟨table, found, limits, source⟩ : ∃ table, talliedRoom.table? 0 = some table ∧
      table.limits = ⟨100, 1000, 50⟩ ∧ table.source = .start .highest := ⟨_, rfl, rfl, rfl⟩
  have points := (roll_points found wildText {}).2 _ roll_wildText (by decide)
  rw [limits, source] at points
  exact ⟨points, rfl⟩

end Tabletop
