import Tabletop.Proofs.RoundTrip

/-!
# Integers that the formula binds

The formula of an expression parses to the terms of the expression, but for one thing: an integer
that stands right after open dice is bound to them in the formula. Such a pair comes out of text
that keeps the two apart, or out of dice that have bound a zero, which the formula does not write.
Where there is no such pair the terms come back as they were, and otherwise one term is lost for
each pair. The texts that the terms were read from are not compared.
-/
namespace Tabletop

namespace Term

def isFlat : Term → Bool
  | .dice _ => false
  | .flat _ => true

/-- In a formula the first term takes the second one in. -/
def absorbs (first second : Term) : Bool := first.isOpen && second.isFlat

/-- The terms with every integer bound to the open dice right before it. -/
def absorbed : List Term → List Term
  | [] => []
  | .dice term :: .flat number :: rest =>
    if term.isOpen then .dice (term.withBonus number.value number.source) :: absorbed rest
    else .dice term :: .flat number :: absorbed rest
  | term :: rest => term :: absorbed rest

/-- How many of the terms are taken in. -/
def absorptions (terms : List Term) : Nat :=
  (terms.zip terms.tail).countP fun pair => pair.1.absorbs pair.2

theorem absorptions_cons_cons (first second : Term) (rest : List Term) :
    absorptions (first :: second :: rest) =
      absorptions (second :: rest) + if first.absorbs second then 1 else 0 := by
  simp only [absorptions, List.tail_cons, List.zip_cons_cons, List.countP_cons]

/-- An integer takes nothing in. -/
theorem absorptions_flat_cons (number : FlatTerm) (rest : List Term) :
    absorptions (.flat number :: rest) = absorptions rest := by
  cases rest with
  | nil => rfl
  | cons second rest =>
    rw [absorptions_cons_cons]
    rfl

/-- Dice take no dice in. -/
theorem absorptions_cons_of_not_flat {first : Term} {rest : List Term}
    (apart : ∀ second ∈ rest.head?, first.absorbs second = false) :
    absorptions (first :: rest) = absorptions rest := by
  cases rest with
  | nil => rfl
  | cons second rest =>
    rw [absorptions_cons_cons, apart second rfl]
    rfl

theorem length_absorbed (terms : List Term) :
    (absorbed terms).length + absorptions terms = terms.length := by
  fun_induction absorbed terms with
  | case1 => rfl
  | case2 term number rest isOpen ih =>
    have taken : (Term.dice term).absorbs (.flat number) = true := by
      simp [absorbs, Term.isOpen, isFlat, isOpen]
    rw [absorptions_cons_cons, absorptions_flat_cons, taken, if_pos rfl]
    simp only [List.length_cons]
    omega
  | case3 term number rest isClosed ih =>
    have apart : (Term.dice term).absorbs (.flat number) = false := by
      simp [absorbs, Term.isOpen, isClosed]
    rw [absorptions_cons_cons, absorptions_flat_cons, apart, if_neg Bool.false_ne_true]
    simp only [List.length_cons]
    omega
  | case4 term rest noPair ih =>
    have apart : ∀ second ∈ rest.head?, term.absorbs second = false := by
      intro second here
      obtain ⟨others, rfl⟩ := List.head?_eq_some_iff.mp here
      cases term with
      | flat _ => rfl
      | dice term =>
        cases second with
        | dice _ => exact Bool.and_false _
        | flat number => exact absurd rfl (noPair term number others rfl)
    rw [absorptions_cons_of_not_flat apart]
    simp only [List.length_cons]
    omega

theorem isChain_iff_absorptions (terms : List Term) :
    (terms.IsChain fun first second => first.absorbs second = false) ↔ absorptions terms = 0 := by
  induction terms with
  | nil => simp [absorptions]
  | cons first rest ih =>
    cases rest with
    | nil => simp [absorptions]
    | cons second rest =>
      rw [List.isChain_cons_cons, ih, absorptions_cons_cons]
      cases first.absorbs second <;> simp

theorem absorbed_of_isChain {terms : List Term}
    (chain : terms.IsChain fun first second => first.absorbs second = false) :
    absorbed terms = terms := by
  fun_induction absorbed terms with
  | case1 => rfl
  | case2 term number rest isOpen ih =>
    have apart := (List.isChain_cons_cons.mp chain).1
    simp [absorbs, Term.isOpen, isFlat, isOpen] at apart
  | case3 term number rest isClosed ih => rw [ih chain.tail.tail]
  | case4 term rest noPair ih => rw [ih chain.tail]

end Term

namespace Notation

open Term (absorbed absorptions)

namespace Spells

variable {limits : Limits} {term : Term}

/-- Dice are written for dice. -/
theorem exists_dice {plus : Bool} {written : WrittenDice}
    (spells : Spells limits (.dice plus written) term) :
    ∃ dice, term = .dice dice ∧ written.term.bare = dice.bare ∧ written.isOpen = dice.isOpen := by
  cases term with
  | dice dice => exact ⟨dice, rfl, Term.dice.inj spells.bare, spells.isOpen⟩
  | flat flat => exact nomatch spells.bare

/-- An integer is written for an integer. -/
theorem exists_flat {number : WrittenInteger} (spells : Spells limits (.flat number) term) :
    ∃ flat, term = .flat flat ∧ number.value = flat.value := by
  cases term with
  | dice dice => exact nomatch spells.bare
  | flat flat => exact ⟨flat, rfl, congrArg FlatTerm.value (Term.flat.inj spells.bare)⟩

end Spells

theorem bare_withBonus {one other : DiceTerm} (same : one.bare = other.bare) (bonus : Int)
    (first second : Text) :
    (one.withBonus bonus first).bare = (other.withBonus bonus second).bare :=
  congrArg (fun term => { term with bonus := bonus }) same

/-- What is written for the terms reads as the terms with their open dice filled. -/
theorem bare_readings {limits : Limits} {written : List WrittenTerm} {terms : List Term}
    (spells : List.Forall₂ (Spells limits) written terms)
    (signed : ∀ term ∈ written.tail, term.isSigned = true) :
    (readings written).map Term.bare = (absorbed terms).map Term.bare := by
  fun_induction readings written generalizing terms with
  | case1 =>
    cases spells
    rfl
  | case2 plus written number rest bound ih =>
    obtain _ | ⟨here, _ | ⟨next, others⟩⟩ := spells
    obtain ⟨dice, rfl, same, isOpen⟩ := here.exists_dice
    obtain ⟨flat, rfl, value⟩ := next.exists_flat
    rw [Bool.and_eq_true, isOpen] at bound
    have later := ih others fun term member =>
      signed term (List.mem_cons_of_mem _ (List.mem_of_mem_tail member))
    rw [absorbed, if_pos bound.1, List.map_cons, List.map_cons, later, value]
    exact congrArg (fun term => Term.dice term :: _) (bare_withBonus same flat.value _ _)
  | case3 plus written number rest apart ih =>
    obtain _ | ⟨here, _ | ⟨next, others⟩⟩ := spells
    obtain ⟨dice, rfl, same, isOpen⟩ := here.exists_dice
    obtain ⟨flat, rfl, value⟩ := next.exists_flat
    have sign : number.sign.isSome = true := signed _ List.mem_cons_self
    rw [sign, Bool.and_true, isOpen] at apart
    have later := ih others fun term member =>
      signed term (List.mem_cons_of_mem _ (List.mem_of_mem_tail member))
    rw [absorbed, if_neg apart]
    simp only [List.map_cons, here.bare, next.bare, later]
  | case4 term rest noFlat ih =>
    obtain _ | ⟨here, others⟩ := spells
    rename_i other terms
    have apart : ∀ dice number tail, other = .dice dice → terms = .flat number :: tail → False := by
      rintro dice number tail rfl rfl
      obtain _ | ⟨next, others⟩ := others
      rename_i second rest
      cases term with
      | flat _ =>
        have same := here.bare
        cases same
      | dice plus written =>
        cases second with
        | dice _ _ =>
          have same := next.bare
          cases same
        | flat number => exact noFlat plus written number rest rfl rfl
    rw [absorbed]
    · rw [List.map_cons, List.map_cons, here.bare,
        ih others fun term member => signed term (List.mem_of_mem_tail member)]
    · exact apart

/-- The terms of the formula are the terms of the expression with every integer bound to the open
dice right before it. So they are the same terms, their sources apart, if and only if no integer
stands right after dice that have a modifier and no bonus; and there is one term less for each
place where one does. -/
theorem parse_formula_absorbed {limits : Limits} {raw : Text} {parsed : Parsed}
    (h : parse limits raw = .ok parsed) (found : parsed.terms ≠ []) :
    ∃ again, parse limits parsed.formula = .ok again ∧
      again.terms.map Term.bare = (absorbed parsed.terms).map Term.bare ∧
      (again.terms.map Term.bare = parsed.terms.map Term.bare ↔
        parsed.terms.IsChain fun first second => first.absorbs second = false) ∧
      again.terms.length + absorptions parsed.terms = parsed.terms.length := by
  obtain ⟨written, spells, signed, _, again⟩ := exists_reparse h found
  have bare := bare_readings spells signed
  have size : (readings written).length = (absorbed parsed.terms).length := by
    simpa using congrArg List.length bare
  have lost := Term.length_absorbed parsed.terms
  refine ⟨_, again, bare, ⟨fun same => ?_, fun chain => ?_⟩, by rw [size, lost]⟩
  · rw [Term.isChain_iff_absorptions]
    have long : (readings written).length = parsed.terms.length := by
      simpa using congrArg List.length same
    omega
  · rw [bare, Term.absorbed_of_isChain chain]

/-- Dice that have bound a zero, and dice that stand apart from the integer after them. -/
def lostText : Text := "4D6dl1+0+2 + 2d6x5 - 1".toList

def lostParsed : Parsed where
  expression := "4d6dl1+0+2+2d6x5-1".toList
  terms := [.dice ⟨4, 6, some ⟨.dropLowest, 1⟩, none, 0, "4d6dl1+0".toList⟩,
    .flat ⟨2, "+2".toList⟩, .dice ⟨2, 6, none, some 6, 0, "2d6x".toList⟩, .flat ⟨5, "5".toList⟩,
    .flat ⟨-1, "-1".toList⟩]
  ignored := []

theorem parse_formula_absorbed_lostText :
    parse ⟨100, 1000, 50⟩ lostText = .ok lostParsed ∧ lostParsed.terms ≠ [] ∧
    lostParsed.formula = "4d6dl1 + 2 + 2d6x + 5 - 1".toList ∧
    ∃ again, parse ⟨100, 1000, 50⟩ lostParsed.formula = .ok again ∧
      again.terms.map Term.bare =
        [.dice ⟨4, 6, some ⟨.dropLowest, 1⟩, none, 2, []⟩, .dice ⟨2, 6, none, some 6, 5, []⟩,
          .flat ⟨-1, []⟩] ∧
      (again.terms.map Term.bare = lostParsed.terms.map Term.bare ↔
        lostParsed.terms.IsChain fun first second => first.absorbs second = false) ∧
      again.terms.length + 2 = 5 := by
  have parsed : parse ⟨100, 1000, 50⟩ lostText = .ok lostParsed := by cbv
  have found : lostParsed.terms ≠ [] := by decide
  exact ⟨parsed, found, by decide, parse_formula_absorbed parsed found⟩

end Notation

end Tabletop
