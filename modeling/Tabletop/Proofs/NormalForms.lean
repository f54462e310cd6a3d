import Tabletop.Notation.Reading
import Tabletop.Proofs.Alike
import Tabletop.Proofs.Casing

/-!
# Normal forms

A text is normal if it holds no blank and no character that lower-casing changes anywhere, so that
the neighbours which decide about a capital sigma play no part. Normalization gives normal texts
and leaves them, and no others, as they are. Parsing looks at the normal form alone, and what was
typed is only quoted where nothing is found in it.
-/
namespace Tabletop

/-- What a fault tells beside its wording. -/
def Fault.cause (fault : Fault) : FaultKind × Text × Option Text :=
  (fault.kind, fault.expression, fault.fragment)

namespace Notation

variable {text other raw : Text}

/-- No character is blank or changed by lower-casing, whatever stands beside it. -/
def IsNormal (text : Text) : Prop :=
  ∀ c ∈ text, Text.isBlank c = false ∧ ∀ before after, Text.lowerAt before c after = [c]

theorem IsNormal.of_subset (normal : IsNormal text) (part : other ⊆ text) : IsNormal other :=
  fun c member => normal c (part member)

theorem IsNormal.append (normal : IsNormal text) (same : IsNormal other) :
    IsNormal (text ++ other) :=
  List.forall_mem_append.mpr ⟨normal, same⟩

theorem isNormal_normalize (raw : Text) : IsNormal (normalize raw) := by
  have blankless : ∀ c ∈ Text.withoutBlanks raw, Text.isBlank c = false := by
    intro c member
    simpa using (List.mem_filter.mp member).2
  intro c member
  have settled := Text.isSettled_of_mem_lower member
  exact ⟨Text.isBlank_of_mem_lower blankless c member, Text.isSettled_iff.mp settled⟩

/-- The normal texts are those that normalization leaves as they are. -/
theorem normalize_eq_self_iff : normalize text = text ↔ IsNormal text := by
  constructor
  · intro same
    rw [← same]
    exact isNormal_normalize text
  · intro normal
    have settled : ∀ c ∈ text, Text.isSettled c = true := fun c member =>
      Text.isSettled_iff.mpr (normal c member).2
    rw [normalize, Text.withoutBlanks_of_blankless fun c member => (normal c member).1,
      Text.lower_of_isSettled settled]

theorem normalize_normalize (raw : Text) : normalize (normalize raw) = normalize raw :=
  normalize_eq_self_iff.mpr (isNormal_normalize raw)

/-- Texts that are their own normal forms do not change each other. -/
theorem normalize_append (normal : normalize text = text) (same : normalize other = other) :
    normalize (text ++ other) = text ++ other := by
  rw [normalize_eq_self_iff] at normal same ⊢
  exact normal.append same

/-! ### Reading normal forms -/

/-- The normal form decides what is read, and only the message that nothing was found tells texts
of one normal form apart. -/
theorem parse_eq_or_nothingFound (limits : Limits) (same : normalize raw = normalize other) :
    parse limits raw = parse limits other ∨ ∃ text,
      parse limits raw = .error (.unreadable (.nothingFound raw) text text) ∧
      parse limits other = .error (.unreadable (.nothingFound other) text text) := by
  rw [parse, parse, same]
  cases scan limits (normalize other) with
  | error fault => exact .inl rfl
  | ok parsed =>
    simp only [bind, Except.bind]
    split
    · exact .inr ⟨parsed.expression, rfl, rfl⟩
    · exact .inl rfl

theorem parse_congr (limits : Limits) (same : normalize raw = normalize other) :
    Matches Eq (parse limits raw) (parse limits other) := by
  rcases parse_eq_or_nothingFound limits same with equal | ⟨text, here, there⟩
  · rw [equal]
    exact Matches.refl _
  · rw [here, there]
    exact .fault rfl

theorem cause_parse_congr (limits : Limits) (same : normalize raw = normalize other) :
    (parse limits raw).mapError Fault.cause = (parse limits other).mapError Fault.cause := by
  rcases parse_eq_or_nothingFound limits same with equal | ⟨text, here, there⟩
  · rw [equal]
  · rw [here, there]
    rfl

/-- One normalization is enough: it leaves no blank, and a second one changes nothing, since normal
texts and no others stay as they are. A normal form is read as the text that it is the normal form
of, to the same result or to a fault of the same kind with the same expression and fragment. -/
theorem normalize_fixpoint (raw : Text) :
    (∀ c ∈ normalize raw, Text.isBlank c = false) ∧
    normalize (normalize raw) = normalize raw ∧
    (normalize raw = raw ↔ IsNormal raw) ∧
    ∀ limits, (parse limits (normalize raw)).mapError Fault.cause =
      (parse limits raw).mapError Fault.cause := by
  have again := normalize_normalize raw
  refine ⟨fun c member => ?_, again, normalize_eq_self_iff, fun limits => ?_⟩
  · exact (isNormal_normalize raw c member).1
  · exact cause_parse_congr limits again

/-- A dotted capital becomes two characters, and a sigma after it is final. -/
example : normalize "2D6 \u0130\u03a3 1".toList = "2d6i\u0307\u03c21".toList := by
  decide +kernel

end Notation

end Tabletop
