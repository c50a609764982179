import TableMapping.Statement.Basic

/-!
# Values of formulas

Formulas in three-valued logic, where a comparison with an absent value is neither true nor false.
A chain of one connective has the same value however it is associated, as long as its atomic
formulas keep their order. The associated form has every chain nested to the left.
-/

namespace TableMapping

/-- The values of formulas. -/
inductive Truth
  | false
  | unknown
  | true
deriving DecidableEq, Repr

namespace Truth

/-- The lesser of two values. -/
def and : Truth → Truth → Truth
  | true, other => other
  | false, _ => false
  | unknown, false => false
  | unknown, _ => unknown

/-- The greater of two values. -/
def or : Truth → Truth → Truth
  | false, other => other
  | true, _ => true
  | unknown, true => true
  | unknown, _ => unknown

theorem and_eq_true {left right : Truth} : left.and right = true ↔ left = true ∧ right = true := by
  cases left <;> cases right <;> decide

end Truth

namespace Connective

/-- The value of a combination of two formulas with the given values. -/
def apply : Connective → Truth → Truth → Truth
  | and => Truth.and
  | or => Truth.or

theorem apply_assoc (connective : Connective) (first second third : Truth) :
    connective.apply (connective.apply first second) third =
      connective.apply first (connective.apply second third) := by
  cases connective <;> cases first <;> cases second <;> cases third <;> rfl

end Connective

namespace Formula

variable {α β : Type}

/-- The formula with each atomic formula changed. -/
def map (change : α → β) : Formula α → Formula β
  | atom formula => atom (change formula)
  | node connective left right => node connective (left.map change) (right.map change)

@[simp]
theorem atoms_map (change : α → β) (formula : Formula α) :
    (formula.map change).atoms = formula.atoms.map change := by
  induction formula with
  | atom formula => rfl
  | node connective left right left_ih right_ih => simp [map, atoms, left_ih, right_ih]

/-- The number of atomic formulas, counted with repetitions. -/
def size (formula : Formula α) : Nat := formula.atoms.length

@[simp]
theorem size_map (change : α → β) (formula : Formula α) :
    (formula.map change).size = formula.size := by
  simp [size]

/-- The value of a formula whose atomic formulas are given values by their position from the left,
of which the first is the given one. -/
def valueFrom (valuation : Nat → Truth) (first : Nat) : Formula α → Truth
  | atom _ => valuation first
  | node connective left right =>
      connective.apply (left.valueFrom valuation first)
        (right.valueFrom valuation (first + left.size))

/-- The value of a formula whose atomic formulas are given values by their position from the
left. -/
def value (valuation : Nat → Truth) (formula : Formula α) : Truth := formula.valueFrom valuation 0

/-- The value of a formula whose atomic formulas are given values by what they say. -/
def eval (meaning : α → Truth) : Formula α → Truth
  | atom formula => meaning formula
  | node connective left right => connective.apply (left.eval meaning) (right.eval meaning)

theorem valueFrom_map (valuation : Nat → Truth) (change : α → β) (first : Nat)
    (formula : Formula α) :
    (formula.map change).valueFrom valuation first = formula.valueFrom valuation first := by
  induction formula generalizing first with
  | atom formula => rfl
  | node connective left right left_ih right_ih =>
      simp only [map, valueFrom, left_ih, right_ih, size_map]

/-- Atomic formulas can be given values by their position instead of by what they say. -/
theorem valueFrom_eq_eval {valuation : Nat → Truth} {meaning : α → Truth} {first : Nat}
    {formula : Formula α}
    (agrees : ∀ position (inside : position < formula.atoms.length),
      valuation (first + position) = meaning formula.atoms[position]) :
    formula.valueFrom valuation first = formula.eval meaning := by
  induction formula generalizing first with
  | atom formula => exact agrees 0 Nat.one_pos
  | node connective left right left_ih right_ih =>
      have left_agrees : ∀ position (inside : position < left.atoms.length),
          valuation (first + position) = meaning left.atoms[position] := by
        intro position inside
        have longer : position < (node connective left right).atoms.length := by
          simp only [atoms, List.length_append]
          omega
        rw [agrees position longer]
        simp [atoms, List.getElem_append_left inside]
      have right_agrees : ∀ position (inside : position < right.atoms.length),
          valuation (first + left.size + position) = meaning right.atoms[position] := by
        intro position inside
        have longer : left.size + position < (node connective left right).atoms.length := by
          simp only [atoms, size, List.length_append]
          omega
        rw [Nat.add_assoc, agrees (left.size + position) longer]
        simp [atoms, size]
      rw [valueFrom, eval, left_ih left_agrees, right_ih right_agrees]

/-! ## Association to the left -/

/-- A formula behind another one, if there is one. -/
def join (connective : Connective) : Option (Formula α) → Formula α → Formula α
  | none, formula => formula
  | some earlier, formula => node connective earlier formula

/-- A formula behind another one, with its own chain of the connective taken apart and nested to
the left. -/
def attach (connective : Connective) (earlier : Option (Formula α)) : Formula α → Formula α
  | atom formula => join connective earlier (atom formula)
  | node inner left right =>
      if inner = connective then
        attach connective (some (attach connective earlier left)) right
      else
        join connective earlier (attach inner (some (attach inner none left)) right)

/-- The formula with every chain of a connective nested to the left. -/
def leftAssociated (formula : Formula α) : Formula α := attach .and none formula

theorem attach_same (connective : Connective) (earlier : Option (Formula α))
    (left right : Formula α) :
    attach connective earlier (node connective left right) =
      attach connective (some (attach connective earlier left)) right := by
  simp [attach]

theorem attach_none (connective : Connective) (formula : Formula α) :
    attach connective none formula = formula.leftAssociated := by
  cases formula with
  | atom formula => rfl
  | node inner left right =>
      cases connective <;> cases inner <;> simp [leftAssociated, attach, join]

theorem atoms_join (connective : Connective) (earlier : Option (Formula α))
    (formula : Formula α) :
    (join connective earlier formula).atoms =
      (earlier.map atoms).getD [] ++ formula.atoms := by
  cases earlier <;> simp [join, atoms]

theorem atoms_attach (connective : Connective) (earlier : Option (Formula α))
    (formula : Formula α) :
    (attach connective earlier formula).atoms = (earlier.map atoms).getD [] ++ formula.atoms := by
  induction formula generalizing connective earlier with
  | atom formula => exact atoms_join connective earlier _
  | node inner left right left_ih right_ih =>
      by_cases same : inner = connective
      · subst inner
        simp [attach_same, right_ih, left_ih, atoms]
      · simp [attach, same, atoms_join, right_ih, left_ih, atoms]

@[simp]
theorem atoms_leftAssociated (formula : Formula α) :
    formula.leftAssociated.atoms = formula.atoms := by
  simp [leftAssociated, atoms_attach]

theorem size_attach_none (connective : Connective) (formula : Formula α) :
    (attach connective none formula).size = formula.size := by
  simp [size, atoms_attach]

/-- The value of an attached formula is the one it has behind the earlier formula. -/
theorem valueFrom_attach (valuation : Nat → Truth) (connective : Connective)
    (earlier : Option (Formula α)) (formula : Formula α) (first : Nat) :
    (attach connective earlier formula).valueFrom valuation first =
      (join connective earlier formula).valueFrom valuation first := by
  induction formula generalizing connective earlier first with
  | atom formula => rfl
  | node inner left right left_ih right_ih =>
      have nested (first : Nat) :
          (attach inner (some (attach inner none left)) right).valueFrom valuation first =
            (node inner left right).valueFrom valuation first := by
        simp only [right_ih, join, valueFrom, left_ih, size_attach_none]
      by_cases same : inner = connective
      · subst inner
        cases earlier with
        | none => rw [attach_same, nested, join]
        | some earlier =>
            have position : (attach connective (some earlier) left).size =
                earlier.size + left.size := by
              simp [size, atoms_attach]
            rw [attach_same, right_ih]
            simp only [join, valueFrom, left_ih, position, Connective.apply_assoc, Nat.add_assoc]
      · rw [attach, if_neg same]
        cases earlier with
        | none => simp only [join, nested]
        | some earlier => simp only [join, valueFrom, nested (first + earlier.size)]

/-- Association keeps the value. -/
@[simp]
theorem value_leftAssociated (valuation : Nat → Truth) (formula : Formula α) :
    formula.leftAssociated.value valuation = formula.value valuation :=
  valueFrom_attach valuation .and none formula 0

theorem eval_leftAssociated (meaning : α → Truth) (formula : Formula α) :
    formula.leftAssociated.eval meaning = formula.eval meaning := by
  let valuation : Nat → Truth := fun position =>
    ((formula.atoms[position]?).map meaning).getD .unknown
  have agrees : ∀ position (inside : position < formula.atoms.length),
      valuation (0 + position) = meaning formula.atoms[position] := by
    intro position inside
    simp [valuation, inside]
  have associated_agrees : ∀ position (inside : position < formula.leftAssociated.atoms.length),
      valuation (0 + position) = meaning formula.leftAssociated.atoms[position] := by
    intro position inside
    simpa using agrees position (by simpa using inside)
  rw [← valueFrom_eq_eval agrees, ← valueFrom_eq_eval associated_agrees]
  exact value_leftAssociated valuation formula

/-! ## Formulas that differ in their association -/

/-- The formulas differ only in how chains of one connective are nested. -/
inductive Reassociated : Formula α → Formula α → Prop
  | refl (formula : Formula α) : Reassociated formula formula
  | symm {formula other : Formula α} (other_way : Reassociated formula other) :
      Reassociated other formula
  | trans {first second third : Formula α} (before : Reassociated first second)
      (after : Reassociated second third) : Reassociated first third
  | node (connective : Connective) {left right other_left other_right : Formula α}
      (lefts : Reassociated left other_left) (rights : Reassociated right other_right) :
      Reassociated (node connective left right) (node connective other_left other_right)
  | assoc (connective : Connective) (first second third : Formula α) :
      Reassociated (node connective (node connective first second) third)
        (node connective first (node connective second third))

/-- What is attached behind an earlier formula only changes its association. -/
theorem reassociated_attach (connective : Connective) (earlier : Option (Formula α))
    (formula : Formula α) :
    Reassociated (join connective earlier formula) (attach connective earlier formula) := by
  induction formula generalizing connective earlier with
  | atom formula => exact .refl _
  | node inner left right left_ih right_ih =>
      have nested (connective : Connective) : Reassociated (node connective left right)
          (attach connective (some (attach connective none left)) right) :=
        .trans (.node connective (left_ih connective none) (.refl right))
          (right_ih connective (some (attach connective none left)))
      by_cases same : inner = connective
      · subst inner
        rw [attach_same]
        cases earlier with
        | none => exact nested connective
        | some earlier =>
            have regrouped : Reassociated (node connective earlier (node connective left right))
                (node connective (node connective earlier left) right) :=
              .symm (.assoc connective earlier left right)
            have attached : Reassociated (node connective (node connective earlier left) right)
                (node connective (attach connective (some earlier) left) right) :=
              .node connective (left_ih connective (some earlier)) (.refl right)
            exact .trans regrouped (.trans attached
              (right_ih connective (some (attach connective (some earlier) left))))
      · rw [attach, if_neg same]
        cases earlier with
        | none => exact nested inner
        | some earlier => exact .node connective (.refl earlier) (nested inner)

theorem reassociated_leftAssociated (formula : Formula α) :
    Reassociated formula formula.leftAssociated :=
  reassociated_attach .and none formula

theorem attach_map (change : α → β) (connective : Connective) (earlier : Option (Formula α))
    (formula : Formula α) :
    attach connective (earlier.map (map change)) (formula.map change) =
      (attach connective earlier formula).map change := by
  have join_map (connective : Connective) (earlier : Option (Formula α))
      (formula : Formula α) :
      join connective (earlier.map (map change)) (formula.map change) =
        (join connective earlier formula).map change := by
    cases earlier <;> rfl
  induction formula generalizing connective earlier with
  | atom formula => exact join_map connective earlier (atom formula)
  | node inner left right left_ih right_ih =>
      have nested (connective : Connective) (earlier : Option (Formula α)) :
          attach connective (some (attach connective (earlier.map (map change))
              (left.map change))) (right.map change) =
            (attach connective (some (attach connective earlier left)) right).map change := by
        rw [left_ih, ← right_ih, Option.map_some]
      by_cases same : inner = connective
      · subst inner
        rw [map, attach_same, nested, attach_same]
      · have inside := nested inner none
        rw [Option.map_none] at inside
        rw [map, attach, if_neg same, inside, join_map, attach, if_neg same]

theorem leftAssociated_map (change : α → β) (formula : Formula α) :
    (formula.map change).leftAssociated = formula.leftAssociated.map change :=
  attach_map change .and none formula

end Formula

end TableMapping
