import Mathlib
import Tabletop.Notation.Reading
import Tabletop.Proofs.Digits

/-!
# Normalization of well-formed notation

On the characters that notation is written with, in either case of their letters, normalization
drops the blanks and takes each letter to its ASCII lower case. Nothing is claimed here about
other text.
-/
namespace Tabletop.Text

def symbols : Text := ['+', '-', '>', 'd', 'x', 'k', 'h', 'l']

/-- The characters of well-formed notation. -/
def isMark (c : Char) : Bool := isDigit c || symbols.contains c

/-- A symbol is in lower case, and neither blank nor a sigma. -/
theorem symbols_plain : ∀ c ∈ symbols,
    (c.toNat ≠ 0x3a3 ∧ lowerChar c = [c]) ∧ isBlank c = false ∧ c.toLower = c := by
  have plain : (symbols.all fun c => decide ((c.toNat ≠ 0x3a3 ∧ lowerChar c = [c]) ∧
      isBlank c = false ∧ c.toLower = c)) = true := by decide +kernel
  simpa only [List.all_eq_true, decide_eq_true_eq] using plain

theorem toNat_toLower_of_upper {c : Char} (h : 65 ≤ c.toNat ∧ c.toNat ≤ 90) :
    c.toLower.toNat = c.toNat + 32 := by
  have upper : c.val ≥ 'A'.val ∧ c.val ≤ 'Z'.val :=
    ⟨UInt32.le_iff_toNat_le.mpr h.1, UInt32.le_iff_toNat_le.mpr h.2⟩
  rw [Char.toLower, dif_pos upper]
  change (c.val + 32).toNat = c.val.toNat + 32
  rw [UInt32.toNat_add]
  have : c.val.toNat ≤ 90 := h.2
  change (c.val.toNat + 32) % 4294967296 = c.val.toNat + 32
  omega

theorem toLower_of_not_upper {c : Char} (h : ¬(65 ≤ c.toNat ∧ c.toNat ≤ 90)) : c.toLower = c := by
  have lower : ¬(c.val ≥ 'A'.val ∧ c.val ≤ 'Z'.val) := fun upper =>
    h ⟨UInt32.le_iff_toNat_le.mp upper.1, UInt32.le_iff_toNat_le.mp upper.2⟩
  rw [Char.toLower, dif_neg lower]

/-- The first run of the case table holds the capitals of the ASCII block. -/
theorem lowerAt_of_upper {c : Char} (h : 65 ≤ c.toNat ∧ c.toNat ≤ 90) (before after : Text) :
    lowerAt before c after = [c.toLower] := by
  have covered : Run.covers ⟨0x41, 0x5a, 1, 32⟩ c.toNat = true := by
    simp only [Run.covers, Nat.mod_one, beq_self_eq_true, Bool.and_true, Bool.and_eq_true,
      decide_eq_true_eq]
    omega
  have found : lowerRuns.find? (·.covers c.toNat) = some ⟨0x41, 0x5a, 1, 32⟩ :=
    List.find?_cons_of_pos (p := fun run : Run => run.covers c.toNat) covered
  have moved : Char.ofNat ((c.toNat : Int) + 32).toNat = c.toLower := by
    have sum : ((c.toNat : Int) + 32).toNat = c.toLower.toNat := by
      rw [toNat_toLower_of_upper h]
      omega
    rw [sum, Char.ofNat_toNat]
  have sigma : c.toNat ≠ 0x3a3 := by omega
  have dotted : c.toNat ≠ 0x130 := by omega
  simp [lowerAt, lowerChar, moved?, sigma, dotted, found, moved]

theorem lowerAt_of_mark {c : Char} (h : isMark c.toLower = true) (before after : Text) :
    lowerAt before c after = [c.toLower] := by
  by_cases upper : 65 ≤ c.toNat ∧ c.toNat ≤ 90
  · exact lowerAt_of_upper upper before after
  rw [toLower_of_not_upper upper] at h ⊢
  simp only [isMark, Bool.or_eq_true, List.contains_iff_mem] at h
  rcases h with digit | sign
  · exact lowerAt_of_isDigit digit before after
  · obtain ⟨sigma, alone⟩ := (symbols_plain c sign).1
    rw [lowerAt, if_neg sigma, alone]

theorem lowerFrom_of_marks (before text : Text) (h : ∀ c ∈ text, isMark c.toLower = true) :
    lowerFrom before text = text.map Char.toLower := by
  induction text generalizing before with
  | nil => rfl
  | cons c rest ih =>
    rw [lowerFrom, lowerAt_of_mark (h c List.mem_cons_self),
      ih _ fun a member => h a (List.mem_cons_of_mem c member)]
    rfl

theorem isBlank_of_mark {c : Char} (h : isMark c = true) : isBlank c = false := by
  simp only [isMark, Bool.or_eq_true, List.contains_iff_mem] at h
  rcases h with digit | sign
  · exact isBlank_of_isDigit digit
  · exact (symbols_plain c sign).2.1

theorem withoutBlanks_of_marks {text : Text} (h : ∀ c ∈ text, isMark c = true) :
    withoutBlanks text = text :=
  withoutBlanks_of_blankless fun c member => isBlank_of_mark (h c member)

/-- A mark is in lower case. -/
theorem toLower_of_mark {c : Char} (h : isMark c = true) : c.toLower = c := by
  simp only [isMark, Bool.or_eq_true, List.contains_iff_mem] at h
  rcases h with digit | sign
  · by_cases upper : 65 ≤ c.toNat ∧ c.toNat ≤ 90
    · have lower := lowerAt_of_upper upper [] []
      rw [lowerAt_of_isDigit digit] at lower
      exact (List.singleton_inj.mp lower).symm
    · exact toLower_of_not_upper upper
  · exact (symbols_plain c sign).2.2

theorem map_toLower_of_marks {text : Text} (h : ∀ c ∈ text, isMark c = true) :
    text.map Char.toLower = text := by
  rw [List.map_congr_left fun c member => toLower_of_mark (h c member)]
  exact List.map_id' text

theorem spelled_of_marks {text : Text} (h : ∀ c ∈ text, isMark c = true) :
    (withoutBlanks text).map Char.toLower = text := by
  rw [withoutBlanks_of_marks h, map_toLower_of_marks h]

end Tabletop.Text

namespace Tabletop.Notation

/-- Blanks anywhere and capitals anywhere make no difference. -/
theorem normalize_of_marks {raw text : Text} (marks : ∀ c ∈ text, Text.isMark c = true)
    (spelled : (Text.withoutBlanks raw).map Char.toLower = text) : normalize raw = text := by
  rw [normalize, Text.lower, Text.lowerFrom_of_marks, spelled]
  intro c member
  exact marks c.toLower (spelled ▸ List.mem_map_of_mem member)

end Tabletop.Notation
