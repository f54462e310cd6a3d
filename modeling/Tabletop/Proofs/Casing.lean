import Tabletop.Notation.Reading
import Tabletop.Proofs.Digits

/-!
# Text in lower case

Lower-casing leaves its own results alone, makes no blank of other characters, and gives at least
one character for each. Where it is applied word by word, only a sigma at the end of a word can come
out otherwise than in the words glued together.
-/
namespace Tabletop.Text

/-- The code points that `run` moves to are not among those that `other` moves. -/
def Run.movesApart (run other : Run) : Bool :=
  decide ((run.last : Int) + run.shift < other.first) ||
    decide ((other.last : Int) < run.first + run.shift) ||
    other.step == 2 && (run.step == 2 || run.first == run.last) &&
      decide ((run.first + run.shift - other.first) % 2 ≠ 0)

theorem Run.movesApart_sound {run other : Run} (apart : run.movesApart other = true) {code : Nat}
    (covered : run.covers code = true) {image : Nat} (moved : (image : Int) = code + run.shift) :
    other.covers image = false := by
  rw [Bool.eq_false_iff]
  intro again
  simp only [covers, Bool.and_eq_true, decide_eq_true_eq, beq_iff_eq] at covered again
  simp only [movesApart, Bool.or_eq_true, Bool.and_eq_true, decide_eq_true_eq, beq_iff_eq] at apart
  obtain ⟨⟨low, high⟩, step⟩ := covered
  obtain ⟨⟨below, above⟩, stride⟩ := again
  rcases apart with (before | behind) | ⟨⟨even, fine⟩, odd⟩
  · omega
  · omega
  · rw [even] at stride
    rcases fine with two | single
    · rw [two] at step
      omega
    · omega

/-- The code points that the run moves to lie outside the spans. -/
def Run.landsApart (spans : List Span) (run : Run) : Bool :=
  spans.all fun span => decide ((run.last : Int) + run.shift < span.1) ||
    decide ((span.2 : Int) < run.first + run.shift)

theorem Run.landsApart_sound {spans : List Span} {run : Run} (apart : run.landsApart spans = true)
    {code : Nat} (covered : run.covers code = true) {c : Char}
    (moved : (c.toNat : Int) = code + run.shift) : within spans c = false := by
  simp only [covers, Bool.and_eq_true, decide_eq_true_eq] at covered
  rw [within, List.any_eq_false]
  intro span member
  have beside := List.all_eq_true.mp apart span member
  simp only [Bool.or_eq_true, decide_eq_true_eq] at beside
  simp only [Bool.and_eq_true, decide_eq_true_eq]
  omega

/-- Lower-casing leaves the character alone, wherever it stands. -/
def isSettled (c : Char) : Bool := c.toNat != 0x130 && lowerRuns.all fun run => !run.covers c.toNat

theorem lowerAt_of_isSettled {c : Char} (settled : isSettled c = true) (before after : Text) :
    lowerAt before c after = [c] := by
  simp only [isSettled, Bool.and_eq_true, bne_iff_ne, ne_eq, List.all_eq_true,
    Bool.not_eq_true'] at settled
  obtain ⟨dotted, apart⟩ := settled
  have sigma : c.toNat ≠ 0x3a3 := by
    intro sigma
    have covered := apart ⟨0x3a3, 0x3ab, 1, 32⟩ (by decide)
    rw [sigma] at covered
    cases covered
  have still : lowerRuns.find? (·.covers c.toNat) = none := by
    rw [List.find?_eq_none]
    intro run member
    rw [apart run member]
    decide
  simp [lowerAt, lowerChar, moved?, sigma, dotted, still]

theorem lowerFrom_of_isSettled (before text : Text) (settled : ∀ c ∈ text, isSettled c = true) :
    lowerFrom before text = text := by
  induction text generalizing before with
  | nil => rfl
  | cons c rest ih =>
    rw [lowerFrom, lowerAt_of_isSettled (settled c List.mem_cons_self),
      ih _ fun a member => settled a (List.mem_cons_of_mem c member)]
    rfl

/-- A number that is no code point stands for the character zero. -/
theorem toNat_ofNat_toNat (code : Int) :
    ((Char.ofNat code.toNat).toNat : Int) = code ∨ Char.ofNat code.toNat = Char.ofNat 0 := by
  by_cases negative : code < 0
  · rw [Int.toNat_of_nonpos (Int.le_of_lt negative)]
    exact Or.inr rfl
  by_cases valid : code.toNat.isValidChar
  · have same : (Char.ofNat code.toNat).toNat = code.toNat := by
      rw [Char.ofNat, dif_pos valid]
      rfl
    omega
  · refine Or.inr ?_
    rw [Char.ofNat, dif_neg valid]
    rfl

/-- Settled characters come out of `c`, and no blank unless `c` is one. -/
def Lowers (c : Char) (lowered : Text) : Prop :=
  ∀ a ∈ lowered, isSettled a = true ∧ (isBlank c = false → isBlank a = false)

theorem lowers_singleton {a : Char} (c : Char) (settled : isSettled a = true)
    (blankless : isBlank a = false) : Lowers c [a] := by
  intro other member
  rw [List.mem_singleton.mp member]
  exact ⟨settled, fun _ => blankless⟩

theorem lowers_of_moved {c : Char} {run : Run} (member : run ∈ lowerRuns)
    (covered : run.covers c.toNat = true) :
    Lowers c [Char.ofNat ((c.toNat : Int) + run.shift).toNat] := by
  -- No run lands on what a run moves or on a blank, which is checked for the whole table at once.
  have table : (lowerRuns.all fun run => lowerRuns.all run.movesApart &&
      run.landsApart ((0x130, 0x130) :: blankSpans)) = true := by decide +kernel
  have sound := List.all_eq_true.mp table run member
  rw [Bool.and_eq_true] at sound
  rcases toNat_ofNat_toNat ((c.toNat : Int) + run.shift) with moved | none
  · have outside := Run.landsApart_sound sound.2 covered moved
    rw [within, List.any_cons, Bool.or_eq_false_iff] at outside
    refine lowers_singleton c ?_ outside.2
    simp only [isSettled, Bool.and_eq_true, bne_iff_ne, ne_eq, List.all_eq_true, Bool.not_eq_true']
    refine ⟨fun dotted => ?_, fun other inside => Run.movesApart_sound ?_ covered moved⟩
    · rw [dotted] at outside
      exact absurd outside.1 (by decide)
    · exact List.all_eq_true.mp sound.1 other inside
  · rw [none]
    exact lowers_singleton c (by decide +kernel) (by decide)

theorem lowers_lowerAt (before : Text) (c : Char) (after : Text) :
    Lowers c (lowerAt before c after) := by
  rw [lowerAt]
  split
  · split
    · exact lowers_singleton c (by decide +kernel) (by decide)
    · exact lowers_singleton c (by decide +kernel) (by decide)
  rw [lowerChar]
  split
  · have marks : ([Char.ofNat 0x69, Char.ofNat 0x307].all fun a => isSettled a && !isBlank a) =
        true := by decide +kernel
    intro a member
    have plain := List.all_eq_true.mp marks a member
    rw [Bool.and_eq_true, Bool.not_eq_true'] at plain
    exact ⟨plain.1, fun _ => plain.2⟩
  next dotted =>
    rw [moved?]
    cases found : lowerRuns.find? (·.covers c.toNat) with
    | some run =>
      have covered := List.find?_some found
      exact lowers_of_moved (List.mem_of_find?_eq_some found) covered
    | none =>
      intro a member
      rw [Option.map_none, Option.getD_none, List.mem_singleton] at member
      rw [member]
      refine ⟨?_, id⟩
      rw [List.find?_eq_none] at found
      simpa [isSettled, dotted] using found

/-- The look into the case table is exact. -/
theorem isSettled_iff {c : Char} :
    isSettled c = true ↔ ∀ before after, lowerAt before c after = [c] := by
  constructor
  · exact lowerAt_of_isSettled
  · intro alone
    have member : c ∈ lowerAt [] c [] := by
      rw [alone]
      exact List.mem_cons_self
    exact (lowers_lowerAt [] c [] c member).1

theorem mem_lowerFrom {a : Char} {before text : Text} (member : a ∈ lowerFrom before text) :
    ∃ c ∈ text, isSettled a = true ∧ (isBlank c = false → isBlank a = false) := by
  induction text generalizing before with
  | nil => cases member
  | cons c rest ih =>
    rcases List.mem_append.mp member with here | there
    · exact ⟨c, List.mem_cons_self, lowers_lowerAt before c rest a here⟩
    · obtain ⟨other, inside, lowers⟩ := ih there
      exact ⟨other, List.mem_cons_of_mem c inside, lowers⟩

/-- Text in lower case is left as it is. -/
theorem isSettled_of_mem_lower {a : Char} {text : Text} (member : a ∈ lower text) :
    isSettled a = true := by
  obtain ⟨_, _, settled, _⟩ := mem_lowerFrom member
  exact settled

theorem isSettled_of_mem_flatten {a : Char} {words : List Text}
    (member : a ∈ (words.map lower).flatten) : isSettled a = true := by
  obtain ⟨word, inside, here⟩ := List.mem_flatten.mp member
  obtain ⟨other, _, rfl⟩ := List.mem_map.mp inside
  exact isSettled_of_mem_lower here

theorem isBlank_of_mem_lower {text : Text} (blankless : ∀ c ∈ text, isBlank c = false) :
    ∀ a ∈ lower text, isBlank a = false := by
  intro a member
  obtain ⟨c, inside, _, kept⟩ := mem_lowerFrom member
  exact kept (blankless c inside)

theorem lower_of_isSettled {text : Text} (settled : ∀ c ∈ text, isSettled c = true) :
    lower text = text := lowerFrom_of_isSettled [] text settled

theorem lowerAt_ne_nil (before : Text) (c : Char) (after : Text) : lowerAt before c after ≠ [] := by
  unfold lowerAt lowerChar
  split
  · exact List.cons_ne_nil _ _
  · split
    · exact List.cons_ne_nil _ _
    · exact List.cons_ne_nil _ _

theorem lower_ne_nil {text : Text} (filled : text ≠ []) : lower text ≠ [] := by
  obtain ⟨c, rest, rfl⟩ := List.exists_cons_of_ne_nil filled
  exact List.append_ne_nil_of_left_ne_nil (lowerAt_ne_nil [] c rest) _

/-- The final form of a sigma as the plain one. -/
def plainSigma (c : Char) : Char := if c.toNat = 0x3c2 then Char.ofNat 0x3c3 else c

theorem map_plainSigma_lowerAt (before : Text) (c : Char) (after : Text) :
    (lowerAt before c after).map plainSigma = (lowerAt [] c []).map plainSigma := by
  have sigma (final : Bool) :
      [Char.ofNat (if final then 0x3c2 else 0x3c3)].map plainSigma = [Char.ofNat 0x3c3] := by
    cases final <;> decide
  rw [lowerAt, lowerAt]
  split
  · rw [sigma, sigma]
  · rfl

theorem map_plainSigma_lowerFrom (before text : Text) :
    (lowerFrom before text).map plainSigma =
      text.flatMap fun c => (lowerAt [] c []).map plainSigma := by
  induction text generalizing before with
  | nil => rfl
  | cons c rest ih =>
    rw [lowerFrom, List.map_append, map_plainSigma_lowerAt, ih]
    rfl

/-- Glueing words together makes no other difference to their lower case. -/
theorem map_plainSigma_flatten (words : List Text) :
    (words.map lower).flatten.map plainSigma = (lower words.flatten).map plainSigma := by
  rw [lower, map_plainSigma_lowerFrom]
  induction words with
  | nil => rfl
  | cons word rest ih =>
    rw [List.map_cons, List.flatten_cons, List.map_append, ih, lower, map_plainSigma_lowerFrom,
      List.flatten_cons, List.flatMap_append]

end Tabletop.Text
