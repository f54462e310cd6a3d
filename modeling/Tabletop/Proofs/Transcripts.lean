import Mathlib.Data.List.Nodup
import Tabletop.Document.Json
import Tabletop.Proofs.Digits

/-!
# Documents read back from their text

A document without reals, whose objects have no field twice and whose integers have numerals, is
read back as itself from the JSON text that is written of it. Each part of the text is read in its
place: what is read ends where the text of the value ends, and what comes after it is left over.
-/
namespace Tabletop

namespace Text

/-- A character is never half of a pair. -/
theorem not_surrogate (c : Char) :
    isHighSurrogate c.toNat = false ∧ isLowSurrogate c.toNat = false := by
  have valid : c.toNat < 0xd800 ∨ 0xdfff < c.toNat ∧ c.toNat < 0x110000 := c.valid
  simp only [isHighSurrogate, isLowSurrogate, Bool.and_eq_false_iff, decide_eq_false_iff_not]
  omega

theorem charOfCode_toNat (c : Char) : charOfCode c.toNat = c := by
  obtain ⟨high, low⟩ := not_surrogate c
  rw [charOfCode, high, low]
  exact Char.ofNat_toNat c

theorem joinSurrogates_codes (text : Text) : joinSurrogates (text.map Char.toNat) = text := by
  induction text with
  | nil => rfl
  | cons c rest ih =>
    cases rest with
    | nil => exact congrArg (fun c => [c]) (charOfCode_toNat c)
    | cons next tail =>
      rw [List.map_cons, List.map_cons, joinSurrogates, (not_surrogate c).1, charOfCode_toNat,
        ← List.map_cons, ih]
      rfl

end Text

namespace Json

/-! ### Strings -/

theorem hex_control : ∀ code < 0x20, ∃ a b c d, Text.hex 4 code = [a, b, c, d] := by
  have four : ∀ code < 0x20, (Text.hex 4 code).length = 4 := by decide
  intro code small
  have length := four code small
  match Text.hex 4 code, length with
  | [a, b, c, d], _ => exact ⟨a, b, c, d, rfl⟩

theorem stringCodes_escaped (c : Char) {rest tail : Text} {codes : List Nat}
    (read : stringCodes rest = some (codes, tail)) :
    stringCodes (escaped c ++ rest) = some (c.toNat :: codes, tail) := by
  unfold escaped
  split
  next marked =>
    simp only [Bool.or_eq_true, decide_eq_true_eq] at marked
    have quote : unescaped? '\x22' = some '\x22' := rfl
    have backslash : unescaped? '\x5c' = some '\x5c' := rfl
    rcases marked with rfl | rfl
    · simp [stringCodes, quote, read]
    · simp [stringCodes, backslash, read]
  next plain =>
    simp only [Bool.or_eq_true, decide_eq_true_eq, not_or] at plain
    split
    next control =>
      obtain ⟨a, b, x, d, written⟩ := hex_control c.toNat control
      have number := Text.hexNumber?_hex 4 c.toNat
      rw [written] at number ⊢
      simp [stringCodes, number, read]
    next visible =>
      rw [List.singleton_append, stringCodes, if_neg visible, read]
      · rfl
      all_goals grind

/-- The codes of a written text are the codes of its characters. -/
theorem stringCodes_written (text rest : Text) :
    stringCodes (text.flatMap escaped ++ '\x22' :: rest) = some (text.map Char.toNat, rest) := by
  induction text with
  | nil => rfl
  | cons c others ih =>
    rw [List.flatMap_cons, List.append_assoc, List.map_cons]
    exact stringCodes_escaped c ih

theorem string_written (s : String) (rest : Text) :
    string (s.toList.flatMap escaped ++ '\x22' :: rest) = .ok (s, rest) := by
  simp only [string, stringCodes_written, Text.joinSurrogates_codes, String.ofList_toList]

/-! ### Numbers and words -/

/-- What may come after a value: the end, or a mark that goes on with a list or an object. -/
def Closes (rest : Text) : Prop := ∀ c ∈ rest.head?, c = ',' ∨ c = ']' ∨ c = '\x7d'

theorem fraction_of_closes {rest : Text} (closes : Closes rest) : fraction rest = ([], rest) := by
  cases rest with
  | nil => rfl
  | cons c tail =>
    rcases closes c rfl with rfl | rfl | rfl <;> rfl

theorem power?_of_closes {rest : Text} (closes : Closes rest) : power? rest = none := by
  cases rest with
  | nil => rfl
  | cons c tail =>
    rcases closes c rfl with rfl | rfl | rfl <;> simp [power?]

theorem number_digits (negative : Bool) {n : Nat} (writable : Numeral.fits n = true) {rest : Text}
    (closes : Closes rest) :
    number negative (Numeral.digits n ++ rest) =
      .ok (.integer (if negative then -(n : Int) else n), rest) := by
  have stop : ∀ c ∈ rest.head?, c.isDigit = false := by
    intro c first
    rcases closes c first with rfl | rfl | rfl <;> rfl
  have filled : (Numeral.digits n).isEmpty = false := by
    simp [List.isEmpty_eq_false_iff, Numeral.digits_ne_nil]
  have short := Nat.not_lt.mpr (Numeral.length_digits_le writable)
  rw [number, Numeral.leading_digits_append n stop]
  simp only [filled, fraction_of_closes closes, power?_of_closes closes, Numeral.read, if_neg short,
    Numeral.value_digits]
  rfl

/-- No word begins like a number. -/
theorem word?_of_digits {text : Text} (digit : ∃ c rest, text = c :: rest ∧ c.isDigit = true) :
    word? text = none ∧ word? ('-' :: text) = none := by
  obtain ⟨c, rest, rfl, digit⟩ := digit
  have apart : c ≠ 'n' ∧ c ≠ 't' ∧ c ≠ 'f' ∧ c ≠ 'N' ∧ c ≠ 'I' ∧ c ≠ '-' := by
    refine ⟨?_, ?_, ?_, ?_, ?_, ?_⟩ <;> rintro rfl <;> exact absurd digit (by decide)
  obtain ⟨n, t, f, N, I, minus⟩ := apart
  constructor <;>
    simp [word?, wordValues, Text.after?, Ne.symm n, Ne.symm t, Ne.symm f, Ne.symm N, Ne.symm I,
      Ne.symm minus]

theorem exists_digit (n : Nat) (rest : Text) :
    ∃ c tail, Numeral.digits n ++ rest = c :: tail ∧ c.isDigit = true := by
  cases written : Numeral.digits n with
  | nil => exact absurd written (Numeral.digits_ne_nil n)
  | cons c tail =>
    exact ⟨c, tail ++ rest, rfl, Numeral.ascii_of_mem_digits (written ▸ List.mem_cons_self)⟩

theorem scalar_minus {rest : Text} (wordless : word? ('-' :: rest) = none) :
    scalar ('-' :: rest) = number true rest := by
  unfold scalar
  rw [wordless]
  rfl

theorem scalar_plain {c : Char} {rest : Text} (wordless : word? (c :: rest) = none)
    (plain : c ≠ '-') : scalar (c :: rest) = number false (c :: rest) := by
  unfold scalar
  rw [wordless]
  split
  next found => cases found
  next same => exact absurd (List.cons.inj same).1 plain
  next => rfl

theorem scalar_integer {n : Int} (writable : Numeral.fits n = true) {rest : Text}
    (closes : Closes rest) : scalar (Numeral.written n ++ rest) = .ok (.integer n, rest) := by
  have size : Numeral.fits n.natAbs = true :=
    Numeral.fits_natCast.mpr (Numeral.fits_iff.mp writable)
  obtain ⟨unsigned, signed⟩ := word?_of_digits (exists_digit n.natAbs rest)
  rw [Numeral.written]
  split
  next negative =>
    have value : -(n.natAbs : Int) = n := by omega
    rw [List.cons_append, scalar_minus signed, number_digits true size closes, if_pos rfl, value]
  next positive =>
    have value : (n.natAbs : Int) = n := by omega
    have read := number_digits false size closes
    obtain ⟨c, tail, found, digit⟩ := exists_digit n.natAbs rest
    have plain : c ≠ '-' := by
      rintro rfl
      exact absurd digit (by decide)
    rw [found] at read unsigned ⊢
    rw [scalar_plain unsigned plain, read, if_neg Bool.false_ne_true, value]

/-! ### Values -/

/-- The characters that the text of a value may begin with. -/
def isOpening (c : Char) : Bool :=
  c == '\x22' || c == '[' || c == '\x7b' || c == 'n' || c == 't' || c == 'f' || c == '-' ||
    c.isDigit

theorem skipBlanks_of_opening {c : Char} (opening : isOpening c = true) (rest : Text) :
    skipBlanks (c :: rest) = c :: rest := by
  rw [skipBlanks, List.dropWhile_cons_of_neg]
  intro blank
  simp only [Bool.or_eq_true, beq_iff_eq] at blank
  rcases blank with ((rfl | rfl) | rfl) | rfl <;> exact absurd opening (by decide)

theorem exists_opening_written {n : Int} (rest : Text) :
    ∃ c tail, Numeral.written n ++ rest = c :: tail ∧ isOpening c = true ∧
      c ≠ '\x22' ∧ c ≠ '[' ∧ c ≠ '\x7b' := by
  rw [Numeral.written]
  split
  · exact ⟨'-', _, rfl, rfl, by decide, by decide, by decide⟩
  · obtain ⟨c, tail, found, digit⟩ := exists_digit n.natAbs rest
    refine ⟨c, tail, found, by simp [isOpening, digit], ?_, ?_, ?_⟩ <;>
      rintro rfl <;> exact absurd digit (by decide)

/-- A value that is no string, list or object is a scalar. -/
theorem value_scalar {c : Char} {rest : Text} (opening : isOpening c = true) (noString : c ≠ '\x22')
    (noList : c ≠ '[') (noObject : c ≠ '\x7b') (levels fuel : Nat) :
    value levels (fuel + 1) (c :: rest) = scalar (c :: rest) := by
  unfold value
  rw [skipBlanks_of_opening opening]
  split <;> simp_all

theorem value_string (s : String) (levels fuel : Nat) (rest : Text) :
    value levels (fuel + 1) (writtenString s ++ rest) = .ok (.text s, rest) := by
  have text : writtenString s ++ rest = '\x22' :: (s.toList.flatMap escaped ++ '\x22' :: rest) := by
    simp [writtenString]
  rw [text]
  unfold value
  rw [skipBlanks_of_opening rfl]
  simp only [string_written]
  rfl

theorem value_list {c : Char} {text rest : Text} {found : List Document} {levels fuel : Nat}
    (opening : isOpening c = true)
    (read : items levels fuel (c :: text) = .ok (found, rest)) :
    value (levels + 1) (fuel + 1) ('[' :: c :: text) = .ok (.list found, rest) := by
  have filled : c ≠ ']' := by
    rintro rfl
    exact absurd opening (by decide)
  unfold value
  rw [skipBlanks_of_opening rfl]
  simp only [skipBlanks_of_opening opening]
  split
  next same => exact absurd (List.cons.inj same).1 filled
  next =>
    rw [read]
    rfl

theorem value_object {text rest : Text} {found : Document.Fields} {levels fuel : Nat}
    (read : members levels fuel [] ('\x22' :: text) = .ok (found, rest)) :
    value (levels + 1) (fuel + 1) ('\x7b' :: '\x22' :: text) = .ok (.object found, rest) := by
  unfold value
  rw [skipBlanks_of_opening rfl]
  simp only [skipBlanks_of_opening (c := '\x22') rfl]
  split
  next same => exact absurd (List.cons.inj same).1 (by decide)
  next =>
    rw [read]
    rfl

theorem skipBlanks_comma (rest : Text) : skipBlanks (',' :: rest) = ',' :: rest := rfl

theorem items_single {text rest : Text} {found : Document} {levels fuel : Nat}
    (read : value levels fuel text = .ok (found, ']' :: rest)) :
    items levels (fuel + 1) text = .ok ([found], rest) := by
  unfold items
  rw [read]
  rfl

theorem items_cons {text more rest : Text} {found : Document} {others : List Document}
    {levels fuel : Nat} (read : value levels fuel text = .ok (found, ',' :: more))
    (later : items levels fuel more = .ok (others, rest)) :
    items levels (fuel + 1) text = .ok (found :: others, rest) := by
  unfold items
  simp only [read, bind, Except.bind, skipBlanks_comma, later]
  rfl

section Members

variable {key : String} {text more rest : Text} {found : Document} {levels fuel : Nat}
  {before fields : Document.Fields}

theorem members_field (key : String) (text : Text) (levels fuel : Nat) (before : Document.Fields) :
    members levels (fuel + 1) before (writtenString key ++ ':' :: text) = (do
      let (found, rest) ← value levels fuel text
      let fields := before.put key found
      match skipBlanks rest with
      | ',' :: rest => members levels fuel fields rest
      | '\x7d' :: rest => return (fields, rest)
      | _ => .error .malformed) := by
  have quoted : writtenString key ++ ':' :: text =
      '\x22' :: (key.toList.flatMap escaped ++ '\x22' :: ':' :: text) := by
    simp [writtenString]
  rw [quoted]
  conv_lhs => unfold members
  rw [skipBlanks_of_opening rfl]
  simp only [string_written]
  rfl

theorem members_single (read : value levels fuel text = .ok (found, '\x7d' :: rest)) :
    members levels (fuel + 1) before (writtenString key ++ ':' :: text) =
      .ok (before.put key found, rest) := by
  rw [members_field, read]
  rfl

theorem members_cons (read : value levels fuel text = .ok (found, ',' :: more))
    (later : members levels fuel (before.put key found) more = .ok (fields, rest)) :
    members levels (fuel + 1) before (writtenString key ++ ':' :: text) = .ok (fields, rest) := by
  rw [members_field, read]
  exact later

end Members

end Json

/-! ### Documents -/

theorem Document.Fields.put_of_fresh {key : String} {value : Document} {fields : Document.Fields}
    (fresh : key ∉ fields.map Prod.fst) : fields.put key value = fields ++ [(key, value)] := by
  induction fields with
  | nil => rfl
  | cons field rest ih =>
    obtain ⟨name, old⟩ := field
    rw [List.map_cons, List.mem_cons, not_or] at fresh
    rw [Document.Fields.put, if_neg (Ne.symm fresh.1), ih fresh.2]
    rfl

namespace Document

mutual

/-- There is no real in the value, and no object has two fields of one name. -/
def isPlain : Document → Bool
  | .real _ => false
  | .list items => itemsPlain items
  | .object fields => decide (fields.map Prod.fst).Nodup && fieldsPlain fields
  | _ => true

def itemsPlain : List Document → Bool
  | [] => true
  | item :: rest => item.isPlain && itemsPlain rest

def fieldsPlain : List (String × Document) → Bool
  | [] => true
  | (_, value) :: rest => value.isPlain && fieldsPlain rest

end

end Document

namespace Json

/-- A value begins with an opening character. -/
theorem exists_opening {doc : Document} (plain : doc.isPlain = true) (rest : Text) :
    ∃ c tail, written doc ++ rest = c :: tail ∧ isOpening c = true := by
  cases doc with
  | real => exact absurd plain Bool.false_ne_true
  | integer n =>
    obtain ⟨c, tail, found, opening, _⟩ := exists_opening_written (n := n) rest
    exact ⟨c, tail, found, opening⟩
  | truth b => cases b <;> exact ⟨_, _, rfl, rfl⟩
  | null | text | list | object => exact ⟨_, _, rfl, rfl⟩

theorem length_written_pos {doc : Document} (plain : doc.isPlain = true) :
    1 ≤ (written doc).length := by
  obtain ⟨c, tail, found, _⟩ := exists_opening plain []
  rw [List.append_nil] at found
  rw [found]
  exact Nat.succ_pos _

/-- The text of a list's items, or of an object's fields, up to the closing mark. -/
theorem joined_cons_cons (part next : Text) (parts : List Text) (rest : Text) :
    Text.joined [','] (part :: next :: parts) ++ rest =
      part ++ ',' :: (Text.joined [','] (next :: parts) ++ rest) := by
  simp [Text.joined]

theorem closes_comma (rest : Text) : Closes (',' :: rest) := by
  rintro c ⟨⟩
  exact .inl rfl

theorem closes_bracket (rest : Text) : Closes (']' :: rest) := by
  rintro c ⟨⟩
  exact .inr (.inl rfl)

theorem closes_brace (rest : Text) : Closes ('\x7d' :: rest) := by
  rintro c ⟨⟩
  exact .inr (.inr rfl)

theorem exists_opening_items {first : Document} (plain : first.isPlain = true)
    (others : List Document) (rest : Text) :
    ∃ c tail, Text.joined [','] (writtenItems (first :: others)) ++ rest = c :: tail ∧
      isOpening c = true := by
  cases others with
  | nil => exact exists_opening plain rest
  | cons next tail =>
    rw [writtenItems, writtenItems, joined_cons_cons]
    exact exists_opening plain _

theorem exists_quote_fields (field : String × Document) (others : Document.Fields) (rest : Text) :
    ∃ tail, Text.joined [','] (writtenFields (field :: others)) ++ rest = '\x22' :: tail := by
  cases others with
  | nil => exact ⟨_, rfl⟩
  | cons next tail =>
    obtain ⟨key, value⟩ := field
    rw [writtenFields, writtenFields, joined_cons_cons]
    exact ⟨_, rfl⟩

/-! The induction follows the document. A value takes one unit of fuel, and its place in a list or
an object another, which is why twice the length of the text is enough. -/

/-- Only lists and objects need levels. -/
theorem exists_level {depth levels : Nat} (deep : depth + 1 ≤ levels) :
    ∃ n, levels = n + 1 ∧ depth ≤ n :=
  ⟨levels - 1, by omega, by omega⟩

mutual

/-- The value is read where it is written, if the reader goes as deep as the value. -/
theorem value_written (doc : Document) (levels fuel : Nat) (rest : Text)
    (plain : doc.isPlain = true) (writable : doc.isWritable = true) (deep : doc.depth ≤ levels)
    (enough : 2 * (written doc).length ≤ fuel) (closes : Closes rest) :
    value levels fuel (written doc ++ rest) = .ok (doc, rest) := by
  have long := length_written_pos plain
  obtain ⟨fuel, rfl⟩ : ∃ n, fuel = n + 1 := ⟨fuel - 1, by omega⟩
  match doc with
  | .real _ => exact absurd plain Bool.false_ne_true
  | .null => exact value_scalar rfl (by decide) (by decide) (by decide) levels fuel
  | .truth true => exact value_scalar rfl (by decide) (by decide) (by decide) levels fuel
  | .truth false => exact value_scalar rfl (by decide) (by decide) (by decide) levels fuel
  | .integer n =>
    obtain ⟨c, tail, found, opening, noString, noList, noObject⟩ :=
      exists_opening_written (n := n) rest
    have fits : Numeral.fits n = true := writable
    have read := scalar_integer fits closes
    rw [written]
    rw [found] at read ⊢
    rw [value_scalar opening noString noList noObject, read]
  | .text s => exact value_string s levels fuel rest
  | .list [] =>
    obtain ⟨levels, rfl, _⟩ := exists_level deep
    rfl
  | .list (first :: others) =>
    simp only [Document.depth, written, List.length_append, List.length_cons] at deep enough
    obtain ⟨levels, rfl, below⟩ := exists_level deep
    have read := items_written (first :: others) levels fuel rest (List.cons_ne_nil _ _) plain
      writable below (by omega)
    have open_first : first.isPlain = true := (Bool.and_eq_true_iff.mp plain).1
    obtain ⟨c, tail, found, opening⟩ := exists_opening_items open_first others (']' :: rest)
    rw [found] at read
    have text : written (.list (first :: others)) ++ rest = '[' :: c :: tail := by
      rw [← found]
      simp [written]
    rw [text]
    exact value_list opening read
  | .object [] =>
    obtain ⟨levels, rfl, _⟩ := exists_level deep
    rfl
  | .object (field :: others) =>
    simp only [Document.depth, written, List.length_append, List.length_cons] at deep enough
    obtain ⟨levels, rfl, below⟩ := exists_level deep
    obtain ⟨distinct, plains⟩ := Bool.and_eq_true_iff.mp plain
    have read := members_written (field :: others) levels fuel [] rest (List.cons_ne_nil _ _)
      plains writable below (by simpa using distinct) (by omega)
    obtain ⟨tail, found⟩ := exists_quote_fields field others ('\x7d' :: rest)
    rw [found] at read
    have text : written (.object (field :: others)) ++ rest = '\x7b' :: '\x22' :: tail := by
      rw [← found]
      simp [written]
    rw [text]
    exact value_object read

theorem items_written (list : List Document) (levels fuel : Nat) (rest : Text) (filled : list ≠ [])
    (plain : Document.itemsPlain list = true) (writable : Document.itemsWritable list = true)
    (deep : Document.itemsDepth list ≤ levels)
    (enough : 2 * (Text.joined [','] (writtenItems list)).length + 1 ≤ fuel) :
    items levels fuel (Text.joined [','] (writtenItems list) ++ ']' :: rest) =
      .ok (list, rest) := by
  obtain ⟨fuel, rfl⟩ : ∃ n, fuel = n + 1 := ⟨fuel - 1, by omega⟩
  match list with
  | [] => exact absurd rfl filled
  | first :: others =>
    simp only [Document.itemsPlain, Document.itemsDepth, Bool.and_eq_true] at plain deep
    obtain ⟨fits, others_fit⟩ := Bool.and_eq_true_iff.mp writable
    have read (rest : Text) (closes : Closes rest) (long : 2 * (written first).length ≤ fuel) :
        value levels fuel (written first ++ rest) = .ok (first, rest) :=
      value_written first levels fuel rest plain.1 fits
        (Nat.le_trans (Nat.le_max_left _ _) deep) long closes
    match others with
    | [] => exact items_single (read _ (closes_bracket rest) (Nat.le_of_succ_le_succ enough))
    | next :: tail =>
      have length := congrArg List.length
        (joined_cons_cons (written first) (written next) (writtenItems tail) [])
      simp only [List.append_nil, List.length_append, List.length_cons] at length
      simp only [writtenItems] at enough length ⊢
      rw [joined_cons_cons]
      refine items_cons (read _ (closes_comma _) (by omega)) ?_
      exact items_written (next :: tail) levels fuel rest (List.cons_ne_nil _ _) plain.2 others_fit
        (Nat.le_trans (Nat.le_max_right _ _) deep) (by simp only [writtenItems]; omega)

theorem members_written (fields : Document.Fields) (levels fuel : Nat) (before : Document.Fields)
    (rest : Text) (filled : fields ≠ []) (plain : Document.fieldsPlain fields = true)
    (writable : Document.fieldsWritable fields = true) (deep : Document.fieldsDepth fields ≤ levels)
    (distinct : ((before ++ fields).map Prod.fst).Nodup)
    (enough : 2 * (Text.joined [','] (writtenFields fields)).length + 1 ≤ fuel) :
    members levels fuel before (Text.joined [','] (writtenFields fields) ++ '\x7d' :: rest) =
      .ok (before ++ fields, rest) := by
  obtain ⟨fuel, rfl⟩ : ∃ n, fuel = n + 1 := ⟨fuel - 1, by omega⟩
  match fields with
  | [] => exact absurd rfl filled
  | (key, first) :: others =>
    simp only [Document.fieldsPlain, Document.fieldsDepth, Bool.and_eq_true] at plain deep
    obtain ⟨fits, others_fit⟩ := Bool.and_eq_true_iff.mp writable
    -- the name is new among the fields read so far, so the field goes to their end
    have fresh : key ∉ before.map Prod.fst := by
      rw [List.map_append, List.nodup_append] at distinct
      exact fun known => distinct.2.2 key known key List.mem_cons_self rfl
    have put : before.put key first = before ++ [(key, first)] :=
      Document.Fields.put_of_fresh fresh
    have read (rest : Text) (closes : Closes rest) (long : 2 * (written first).length ≤ fuel) :
        value levels fuel (written first ++ rest) = .ok (first, rest) :=
      value_written first levels fuel rest plain.1 fits
        (Nat.le_trans (Nat.le_max_left _ _) deep) long closes
    match others with
    | [] =>
      have single : Text.joined [','] (writtenFields [(key, first)]) ++ '\x7d' :: rest =
          writtenString key ++ ':' :: (written first ++ '\x7d' :: rest) := by
        simp [writtenFields, Text.joined]
      have length := congrArg List.length single
      simp only [List.length_append, List.length_cons] at length
      rw [single, ← put]
      exact members_single (read _ (closes_brace rest) (by omega))
    | (name, second) :: tail =>
      have several : Text.joined [','] (writtenFields ((key, first) :: (name, second) :: tail)) ++
          '\x7d' :: rest = writtenString key ++ ':' :: (written first ++ ',' ::
            (Text.joined [','] (writtenFields ((name, second) :: tail)) ++ '\x7d' :: rest)) := by
        rw [writtenFields, writtenFields, joined_cons_cons]
        simp
      have length := congrArg List.length several
      simp only [List.length_append, List.length_cons] at length
      rw [several]
      refine members_cons (read _ (closes_comma _) (by omega)) ?_
      rw [put]
      have later := members_written ((name, second) :: tail) levels fuel (before ++ [(key, first)])
        rest (List.cons_ne_nil _ _) plain.2 others_fit (Nat.le_trans (Nat.le_max_right _ _) deep)
        (by rwa [List.append_assoc]) (by omega)
      rwa [List.append_assoc] at later

end

/-- A plain document is read back from its text. -/
theorem read_written {doc : Document} (plain : doc.isPlain = true)
    (writable : doc.isWritable = true) {levels : Nat} (deep : doc.depth ≤ levels) :
    read levels (written doc) = .ok doc := by
  have found := value_written doc levels (2 * (written doc).length + 2) [] plain writable deep
    (Nat.le_add_right _ _) (by simp [Closes])
  rw [List.append_nil] at found
  rw [read, found]
  rfl

end Json

end Tabletop
