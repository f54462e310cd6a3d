import Tabletop.Proofs.Course
import Tabletop.Proofs.Drawing
import Tabletop.Proofs.NormalForms

/-!
# Commands by their words

A command is read by its words alone, however they are set apart. Two orders come to the same roll
and the same draws if their expressions are the same without their blanks and in lower case; what
the reply says was rolled and the label of the announcement are not compared.
-/
namespace Tabletop.Text

variable {text : Text}

def isWord (text : Text) : Bool := !text.isEmpty && text.all fun c => !isBlank c

theorem isWord_iff : isWord text = true ↔ text ≠ [] ∧ ∀ c ∈ text, isBlank c = false := by
  simp [isWord]

theorem pushWord_append (word : Text) (first second : List Text) :
    pushWord word (first ++ second) = pushWord word first ++ second := by
  unfold pushWord
  split <;> rfl

theorem wordsFrom_append_blank {c : Char} (blank : isBlank c = true) (first second : Text) :
    wordsFrom (first ++ c :: second) =
      ((wordsFrom first).1, (wordsFrom first).2 ++ words second) := by
  induction first with
  | nil => simp only [List.nil_append, wordsFrom, blank, if_true, words]
  | cons a rest ih =>
    simp only [List.cons_append, wordsFrom, ih]
    split
    · rw [pushWord_append]
    · rfl

/-- A blank sets words apart. -/
theorem words_append_blank {c : Char} (blank : isBlank c = true) (first second : Text) :
    words (first ++ c :: second) = words first ++ words second := by
  rw [words, wordsFrom_append_blank blank]
  exact pushWord_append _ _ _

theorem wordsFrom_blankless (blankless : ∀ c ∈ text, isBlank c = false) :
    wordsFrom text = (text, []) := by
  induction text with
  | nil => rfl
  | cons c rest ih =>
    obtain ⟨here, there⟩ := List.forall_mem_cons.mp blankless
    simp [wordsFrom, ih there, here]

theorem words_of_isWord (word : isWord text = true) : words text = [text] := by
  obtain ⟨filled, blankless⟩ := isWord_iff.mp word
  rw [words, wordsFrom_blankless blankless]
  simp [pushWord, filled]

theorem words_append_blanks (first : Text) {second : Text}
    (blanks : ∀ c ∈ second, isBlank c = true) : words (first ++ second) = words first := by
  induction second generalizing first with
  | nil => rw [List.append_nil]
  | cons c rest ih =>
    obtain ⟨here, there⟩ := List.forall_mem_cons.mp blanks
    have none : words rest = [] := ih [] there
    rw [words_append_blank here, none, List.append_nil]

theorem words_joined (parts : List Text) : words (joined [' '] parts) = parts.flatMap words := by
  fun_induction joined [' '] parts with
  | case1 => rfl
  | case2 part => simp
  | case3 part rest _ ih =>
    rw [List.append_assoc, List.singleton_append, words_append_blank (by decide), ih]
    rfl

theorem flatMap_words {parts : List Text} (each : ∀ part ∈ parts, isWord part = true) :
    parts.flatMap words = parts := by
  induction parts with
  | nil => rfl
  | cons part rest ih =>
    obtain ⟨here, there⟩ := List.forall_mem_cons.mp each
    rw [List.flatMap_cons, words_of_isWord here, ih there]
    rfl

/-- Stripping takes nothing but blanks off the end of a text that does not begin with one. -/
theorem strip_cons {c : Char} (solid : isBlank c = false) (text : Text) :
    ∃ kept blanks, strip (c :: text) = c :: kept ∧ text = kept ++ blanks ∧
      ∀ a ∈ blanks, isBlank a = true := by
  refine ⟨(text.reverse.dropWhile isBlank).reverse, (text.reverse.takeWhile isBlank).reverse,
    ?_, ?_, ?_⟩
  · have front : (c :: text).dropWhile isBlank = c :: text := by simp [solid]
    rw [strip, trimmed, front, List.reverse_cons, List.dropWhile_append]
    split
    next empty =>
      rw [List.isEmpty_iff.mp empty]
      simp [solid]
    next => simp
  · rw [← List.reverse_append, List.takeWhile_append_dropWhile, List.reverse_reverse]
  · intro a member
    exact List.mem_takeWhile_imp (List.mem_reverse.mp member)

theorem isWord_lower (word : isWord text = true) : isWord (lower text) = true := by
  obtain ⟨filled, blankless⟩ := isWord_iff.mp word
  exact isWord_iff.mpr ⟨lower_ne_nil filled, isBlank_of_mem_lower blankless⟩

theorem isWord_of_mem_map_lower {parts : List Text} (each : ∀ part ∈ parts, isWord part = true) :
    ∀ part ∈ parts.map lower, isWord part = true :=
  List.forall_mem_map.mpr fun part member => isWord_lower (each part member)

theorem withoutBlanks_append (first second : Text) :
    withoutBlanks (first ++ second) = withoutBlanks first ++ withoutBlanks second :=
  List.filter_append ..

theorem withoutBlanks_cons_blank (text : Text) : withoutBlanks (' ' :: text) = withoutBlanks text :=
  List.filter_cons_of_neg (by decide)

theorem withoutBlanks_of_isWord (word : isWord text = true) : withoutBlanks text = text :=
  withoutBlanks_of_blankless (isWord_iff.mp word).2

theorem withoutBlanks_joined {parts : List Text} (each : ∀ part ∈ parts, isWord part = true) :
    withoutBlanks (joined [' '] parts) = parts.flatten := by
  fun_induction joined [' '] parts with
  | case1 => rfl
  | case2 part =>
    rw [withoutBlanks_of_isWord (each part List.mem_cons_self), List.flatten_singleton]
  | case3 part rest _ ih =>
    obtain ⟨here, there⟩ := List.forall_mem_cons.mp each
    rw [List.append_assoc, List.singleton_append, withoutBlanks_append, withoutBlanks_cons_blank,
      withoutBlanks_of_isWord here, ih there, List.flatten_cons]

theorem joined_ne_nil {mark part : Text} (filled : part ≠ []) (rest : List Text) :
    joined mark (part :: rest) ≠ [] := by
  cases rest with
  | nil => exact filled
  | cons next rest =>
    rw [joined, List.append_assoc]
    · exact List.append_ne_nil_of_left_ne_nil filled _
    · exact List.cons_ne_nil _ _

end Tabletop.Text

namespace Tabletop

def CommandName.word : CommandName → Text
  | .roll => "roll".toList
  | .damage => "damage".toList
  | .heal => "heal".toList

namespace Command

/-- The text of a command with its words one blank apart. -/
def spoken (name : CommandName) (words : List Text) : Text :=
  '/' :: Text.joined [' '] (name.word :: words)

theorem ofContent_congr {content other : Text} (same : Text.words content = Text.words other) :
    ofContent content = ofContent other := by
  rw [ofContent, ofContent, same]

theorem ofText_slash (content : Text) : ofText ('/' :: content) = ofContent content := by
  obtain ⟨kept, blanks, stripped, rfl, blank⟩ :=
    Text.strip_cons (c := '/') (by decide) content
  rw [ofText, stripped]
  exact ofContent_congr (Text.words_append_blanks kept blank).symm

theorem ofText_spoken (name : CommandName) (parts : List Text) :
    ofText (spoken name parts) = .ok ⟨name, (parts.flatMap Text.words).map Text.lower⟩ := by
  have named : Text.words name.word = [name.word] := by cases name <;> decide
  have known : CommandName.ofText? (Text.lower name.word) = some name := by
    cases name <;> decide +kernel
  rw [spoken, ofText_slash, ofContent, Text.words_joined, List.flatMap_cons, named]
  simp only [List.singleton_append, List.headD_cons, known, List.tail_cons]

theorem edge_nil : edge [] = .none := rfl

theorem paired_none (expression : Text) : paired .none expression = expression := rfl

section Flags

variable {words flags : List Text}

theorem edge_append (plain : ∀ word ∈ words, isFlag word = false) :
    edge (words ++ flags) = edge flags := by
  have apart {flag : Text} (known : isFlag flag = true) : (words.contains flag) = false := by
    rw [Bool.eq_false_iff]
    intro inside
    have other := plain flag (List.contains_iff_mem.mp inside)
    rw [known] at other
    cases other
  rw [edge, edge, List.contains_append, List.contains_append, apart (by decide), apart (by decide)]
  rfl

/-- The flags stand apart from what is rolled. -/
theorem rollOrder?_append (filled : words ≠ [])
    (each : ∀ word ∈ words, Text.isWord word = true) (plain : ∀ word ∈ words, isFlag word = false)
    (flagged : ∀ flag ∈ flags, isFlag flag = true) :
    rollOrder? (words ++ flags) =
      some ⟨.plain (paired (edge flags) (Text.joined [' '] words)),
        paired (edge flags) (Text.joined [' '] words)⟩ := by
  have kept : (words ++ flags).filter (fun word => !isFlag word) = words := by
    rw [List.filter_append, List.filter_eq_self.mpr, List.filter_eq_nil_iff.mpr, List.append_nil]
    · intro flag member
      simp [flagged flag member]
    · intro word member
      simp [plain word member]
  obtain ⟨word, rest, rfl⟩ := List.exists_cons_of_ne_nil filled
  have spelled : (Text.joined [' '] (word :: rest)).isEmpty = false := by
    rw [List.isEmpty_eq_false_iff]
    exact Text.joined_ne_nil (Text.isWord_iff.mp (each word List.mem_cons_self)).1 rest
  rw [rollOrder?, kept]
  simp only [spelled, Bool.false_eq_true, if_false, edge_append plain]

theorem isWord_of_isFlag {flag : Text} (flagged : isFlag flag = true) :
    Text.isWord flag = true ∧ Text.lower flag = flag := by
  rw [isFlag, Bool.or_eq_true, beq_iff_eq, beq_iff_eq] at flagged
  rcases flagged with rfl | rfl
  · exact ⟨by decide, by decide +kernel⟩
  · exact ⟨by decide, by decide +kernel⟩

/-- The text is a command that orders something. -/
def Orders (text : Text) (order : CommandOrder) : Prop :=
  ∃ found, ofText text = .ok found ∧ found.order? = some order

/-- Blanks within the parts of a command set words apart as well. -/
theorem orders_congr {name : CommandName} {parts others : List Text} {order : CommandOrder}
    (same : parts.flatMap Text.words = others.flatMap Text.words)
    (ordered : Orders (spoken name parts) order) : Orders (spoken name others) order := by
  obtain ⟨found, read, given⟩ := ordered
  refine ⟨found, ?_, given⟩
  rw [ofText_spoken, ← same, ← ofText_spoken, read]

theorem orders_roll (filled : words ≠ []) (each : ∀ word ∈ words, Text.isWord word = true)
    (plain : ∀ word ∈ words, isFlag (Text.lower word) = false)
    (flagged : ∀ flag ∈ flags, isFlag flag = true) :
    Orders (spoken .roll (words ++ flags))
      ⟨.plain (paired (edge flags) (Text.joined [' '] (words.map Text.lower))),
        paired (edge flags) (Text.joined [' '] (words.map Text.lower))⟩ := by
  have whole : ∀ word ∈ words ++ flags, Text.isWord word = true :=
    List.forall_mem_append.mpr ⟨each, fun flag member => (isWord_of_isFlag (flagged flag member)).1⟩
  have same : flags.map Text.lower = flags := by
    rw [List.map_congr_left fun flag member => (isWord_of_isFlag (flagged flag member)).2]
    exact List.map_id' flags
  have lowered : words.map Text.lower ≠ [] := by simpa using filled
  have ordered := rollOrder?_append lowered (Text.isWord_of_mem_map_lower each)
    (List.forall_mem_map.mpr plain) flagged
  refine ⟨⟨.roll, words.map Text.lower ++ flags⟩, ?_, ordered⟩
  rw [ofText_spoken, Text.flatMap_words whole, List.map_append, same]

theorem orders_heal {word : Text} {rest : List Text}
    (each : ∀ part ∈ word :: rest, Text.isWord part = true) :
    Orders (spoken .heal (word :: rest))
      ⟨⟨Text.lower word, some "Healing".toList⟩, Text.lower word ++ " healing".toList⟩ := by
  refine ⟨⟨.heal, (word :: rest).map Text.lower⟩, ?_, rfl⟩
  rw [ofText_spoken, Text.flatMap_words each]

end Flags

end Command

namespace Notation

/-- Words in lower case are glued together. -/
theorem normalize_joined {words : List Text} (each : ∀ word ∈ words, Text.isWord word = true) :
    normalize (Text.joined [' '] (words.map Text.lower)) = (words.map Text.lower).flatten := by
  rw [normalize, Text.withoutBlanks_joined (Text.isWord_of_mem_map_lower each)]
  exact Text.lower_of_isSettled fun c => Text.isSettled_of_mem_flatten

end Notation

namespace Roll

variable {σ : Type} [DrawSource σ] {limits : Limits} {raw other : Text}

theorem ofExpression_congr (same : Notation.normalize raw = Notation.normalize other) :
    Rolling.Alike Eq (ofExpression limits raw : Rolling σ Roll) (ofExpression limits other) := by
  have read := Notation.parse_congr limits same
  rw [ofExpression, ofExpression]
  generalize Notation.parse limits raw = one at read ⊢
  generalize Notation.parse limits other = two at read ⊢
  cases read with
  | fault kinds => exact Rolling.Alike.throw kinds
  | result equal =>
    subst equal
    dsimp only
    split
    · exact Rolling.Alike.throw rfl
    · exact Rolling.Alike.refl _

/-- A roll bears the normal form of what was asked for. -/
theorem expression_of_rolled {source after : σ} {roll : Roll}
    (rolled : (ofExpression limits raw : Rolling σ Roll).run.run source = (.ok roll, after)) :
    roll.expression = Notation.normalize raw := by
  rw [ofExpression] at rolled
  split at rolled
  · cases rolled
  next parsed read =>
    split at rolled
    · cases rolled
    · obtain ⟨groups, between, _, done⟩ := Rolling.run_bind_eq_ok rolled
      cases done
      exact (Notation.parse_success read).1

end Roll

namespace Table

variable {σ : Type} [DrawSource σ] {first second : Order}

theorem filled_congr
    (same : Notation.normalize first.expression = Notation.normalize second.expression)
    (options : RollOptions) (table : Table σ) :
    Matches Eq (table.filled first options).1 (table.filled second options).1 ∧
      (table.filled first options).2 = (table.filled second options).2 := by
  obtain ⟨outcome, left⟩ := @Roll.ofExpression_congr σ _ table.limits _ _ same table.source
  rw [filled, filled, Room.outcome, Room.outcome]
  generalize (Roll.ofExpression table.limits first.expression).run.run table.source = one at *
  generalize (Roll.ofExpression table.limits second.expression).run.run table.source = two at *
  obtain ⟨one, source⟩ := one
  obtain ⟨two, between⟩ := two
  subst left
  cases outcome with
  | fault kinds => exact ⟨.fault kinds, rfl⟩
  | result equal =>
    subst equal
    refine ⟨?_, rfl⟩
    dsimp only
    split
    · exact .fault rfl
    · exact .result rfl

theorem expression_of_filled {order : Order} {options : RollOptions} {table : Table σ} {roll : Roll}
    (told : (table.filled order options).1 = .ok roll) :
    roll.expression = Notation.normalize order.expression := by
  rw [filled] at told
  split at told
  · cases told
  next rolled source ran =>
    dsimp only at told
    split at told
    · cases told
    · cases told
      exact Roll.expression_of_rolled ran

end Table

namespace Reply

/-- What was rolled does not depend on what the reply calls it. -/
theorem ofRoll_matches (subject theme : Text) (roll : Roll) :
    Matches (fun reply answer => reply.roll = answer.roll) (ofRoll subject roll)
      (ofRoll theme roll) := by
  rw [ofRoll, ofRoll]
  split
  · exact .result rfl
  · exact .fault rfl

theorem roll_of_ofRoll {subject : Text} {roll : Roll} {reply : Reply}
    (replied : ofRoll subject roll = .ok reply) : reply.roll = some roll := by
  rw [ofRoll] at replied
  split at replied
  · cases replied
    rfl
  · cases replied

end Reply

namespace Room

variable {σ : Type}

/-- Both fail with the same kind of error. -/
def FailAlike (one other : Except Fault Reply × Room σ) : Prop :=
  ∃ fault flaw, one.1 = .error fault ∧ other.1 = .error flaw ∧ fault.kind = flaw.kind

/-- Both fail with the same kind of error, or both are answered about the same roll and leave the
same tables, their histories and their sources included. -/
def SameOutcome (one other : Except Fault Reply × Room σ) : Prop :=
  FailAlike one other ∨ ∃ reply answer, one.1 = .ok reply ∧ other.1 = .ok answer ∧
    reply.roll = answer.roll ∧ one.2.registry = other.2.registry

theorem sameOutcome_of_matches {one other : Except Fault Reply} {left right : Room σ}
    (found : Matches (fun reply answer => reply.roll = answer.roll) one other)
    (same : left.registry = right.registry) : SameOutcome (one, left) (other, right) := by
  cases found with
  | fault kinds => exact .inl ⟨_, _, rfl, rfl, kinds⟩
  | result equal => exact .inr ⟨_, _, rfl, rfl, equal, same⟩

variable [DrawSource σ] {place : Nat} {options : RollOptions} {room : Room σ}

section Ordered

variable {text speech : Text} {one other : CommandOrder}

theorem command_eq (ordered : Command.Orders text one) :
    room.command place text options =
      ((room.fill place one.order options).1.bind (Reply.ofRoll one.subject),
        (room.fill place one.order options).2) := by
  obtain ⟨found, read, given⟩ := ordered
  exact command_ordered read given

theorem sameOutcome_of_normalize (first : Command.Orders text one)
    (second : Command.Orders speech other)
    (same : Notation.normalize one.order.expression =
      Notation.normalize other.order.expression) :
    SameOutcome (room.command place text options) (room.command place speech options) := by
  rw [command_eq first, command_eq second]
  cases found : room.table? place with
  | none =>
    rw [fill_missing found, fill_missing found]
    exact .inl ⟨_, _, rfl, rfl, rfl⟩
  | some table =>
    rw [fill_filled found, fill_filled found]
    obtain ⟨result, left⟩ := Table.filled_congr same options table
    refine sameOutcome_of_matches ?_ ?_
    · generalize (table.filled one.order options).1 = told at *
      generalize (table.filled other.order options).1 = found at *
      cases result with
      | fault kinds => exact .fault kinds
      | result equal =>
        subst equal
        exact Reply.ofRoll_matches one.subject other.subject _
    · rw [registry_publish?, registry_publish?, left]

/-- A command that is answered with a roll has rolled its own expression. -/
theorem expression_of_command (ordered : Command.Orders text one) {reply : Reply}
    (answered : (room.command place text options).1 = .ok reply) :
    ∃ roll, reply.roll = some roll ∧ roll.expression = Notation.normalize one.order.expression := by
  rw [command_eq ordered] at answered
  cases found : room.table? place with
  | none =>
    rw [fill_missing found] at answered
    cases answered
  | some table =>
    rw [fill_filled found] at answered
    obtain ⟨roll, told, replied⟩ := Notation.bind_success answered
    exact ⟨roll, Reply.roll_of_ofRoll replied, Table.expression_of_filled told⟩

/-- A roll whose sums can be written is answered with. -/
theorem answered_of_rolled (ordered : Command.Orders text one) {table : Table σ} {roll : Roll}
    {source : σ} (found : room.table? place = some table)
    (rolled : outcome table one.order = (.ok roll, source))
    (flat : Numeral.fits roll.flatSum = true) (total : Numeral.fits roll.total = true) :
    ∃ reply, (room.command place text options).1 = .ok reply := by
  have told : (table.filled one.order options).1 = .ok roll := by
    rw [Table.filled_of_rolled rolled, flat, total]
    simp
  rw [command_eq ordered, fill_filled found, told]
  exact ⟨_, if_pos total⟩

/-- Two commands with something to roll come to the same exactly if what they roll has the same
normal form, unless both fail alike. -/
theorem sameOutcome_iff (first : Command.Orders text one) (second : Command.Orders speech other) :
    SameOutcome (room.command place text options) (room.command place speech options) ↔
      Notation.normalize one.order.expression = Notation.normalize other.order.expression ∨
        FailAlike (room.command place text options) (room.command place speech options) := by
  constructor
  · rintro (fail | ⟨reply, answer, replied, answered, same, _⟩)
    · exact .inr fail
    · obtain ⟨roll, rolled, expression⟩ := expression_of_command first replied
      obtain ⟨roll', rolled', expression'⟩ := expression_of_command second answered
      rw [rolled, rolled', Option.some.injEq] at same
      rw [← expression, ← expression', same]
      exact .inl rfl
  · rintro (same | fail)
    · exact sameOutcome_of_normalize first second same
    · exact .inl fail

end Ordered

/-- A room with one table that counts its draws and has not rolled yet. -/
def talliedRoom : Room (Tally Supply) :=
  let room := Room.start ⟨50, ⟨100, 1000, 50⟩, fun _ => .start .highest⟩ (Channel.start false)
  (room.create [] none none).2

def edgeFlags : List Text := ["advantage".toList]

theorem answered_talliedRoom {text : Text} {one : CommandOrder} {parsed : Parsed}
    {groups : List DiceGroup} {left : Tally Supply} (ordered : Command.Orders text one)
    (read : Notation.parse ⟨100, 1000, 50⟩ one.order.expression = .ok parsed)
    (found : parsed.terms ≠ [])
    (rolled : (Roll.groupsOf 50 parsed.diceTerms : Rolling (Tally Supply) _).run.run
      (.start .highest) = (.ok groups, left))
    (flat : Numeral.fits (Roll.ofGroups parsed groups).flatSum = true)
    (total : Numeral.fits (Roll.ofGroups parsed groups).total = true) :
    ∃ reply, (talliedRoom.command 0 text {}).1 = .ok reply := by
  obtain ⟨table, here, limits, source⟩ : ∃ table, talliedRoom.table? 0 = some table ∧
      table.limits = ⟨100, 1000, 50⟩ ∧ table.source = .start .highest := ⟨_, rfl, rfl, rfl⟩
  have made : outcome table one.order = (.ok (Roll.ofGroups parsed groups), left) := by
    rw [outcome, limits, source, Roll.ofExpression_of_parse read found, Roll.ofParsed,
      Rolling.run_bind, Rolling.run_adapt, rolled]
    rfl
  exact answered_of_rolled ordered here made flat total

end Room

end Tabletop
