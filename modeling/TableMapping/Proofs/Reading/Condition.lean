import TableMapping.Proofs.Formula
import TableMapping.Proofs.Reading.Sign

/-!
# Reading of conditions

How the signs of a condition are put together: `AND` binds tighter than `OR`, both associate to the
left, and parentheses group. The signs are read one after the other, with a stack of the levels
whose parenthesis is still open. What the text of a condition reads as is the condition with each
of its chains nested to the left.
-/

namespace TableMapping

namespace Atom

/-- The atomic condition on a column that the signs behind the column stand for. -/
def onColumn? (column : ColumnRef) : List Sign → Option Atom
  | [.symbol '=', .name table, .symbol '.', .name name] =>
      some (.columnsEqual column ⟨table, name⟩)
  | [.keyword "is", .keyword "null"] => some (.test (.isNull column))
  | [.keyword "is", .keyword "not", .keyword "null"] => some (.test (.isNotNull column))
  | [.symbol '=', .value value] => some (.test (.compare column .eq value))
  | [.symbol '<', .symbol '>', .value value] => some (.test (.compare column .notEq value))
  | [.symbol '<', .value value] => some (.test (.compare column .lt value))
  | [.symbol '<', .symbol '=', .value value] => some (.test (.compare column .le value))
  | [.symbol '>', .value value] => some (.test (.compare column .gt value))
  | [.symbol '>', .symbol '=', .value value] => some (.test (.compare column .ge value))
  | [.keyword "like", .value value] => some (.test (.compare column .like value))
  | _ => none

/-- The atomic condition that signs stand for. -/
def ofSigns? : List Sign → Option Atom
  | .name table :: .symbol '.' :: .name name :: rest => onColumn? ⟨table, name⟩ rest
  | _ => none

/-- The atomic condition with its value in the form in which the database takes it. -/
def bound (dialect : Dialect) : Atom → Atom
  | .test (.compare column comparison value) =>
      .test (.compare column comparison (dialect.bind value))
  | .test (.isNull column) => .test (.isNull column)
  | .test (.isNotNull column) => .test (.isNotNull column)
  | .columnsEqual left right => .columnsEqual left right

theorem ofSigns?_tokens (dialect : Dialect) (atom : Atom) :
    ofSigns? (Token.allSigns dialect atom.tokens) = some (atom.bound dialect) := by
  cases atom with
  | columnsEqual left right => rfl
  | test test =>
      cases test with
      | compare column comparison value => cases comparison <;> rfl
      | isNull column => rfl
      | isNotNull column => rfl

end Atom

namespace Condition

/-- The condition with its values in the form in which the database takes them. -/
def bound (dialect : Dialect) (condition : Condition) : Condition :=
  condition.map (Atom.bound dialect)

/-- The last operand of a level. -/
inductive Operand
  /-- The signs of an atomic condition, as far as they have been read. -/
  | leaf (signs : List Sign)
  /-- A condition between parentheses. -/
  | group (condition : Condition)

/-- What has been read since the innermost parenthesis that is open. -/
structure Level where
  /-- The terms that an `OR` follows. -/
  disjunction : Option Condition
  /-- The operands of the last term that an `AND` follows. -/
  conjunction : Option Condition
  operand : Operand

namespace Operand

/-- The condition that an operand stands for. -/
def condition? : Operand → Option Condition
  | leaf signs => (Atom.ofSigns? signs).map .atom
  | group condition => some condition

end Operand

namespace Level

/-- Nothing has been read. -/
def start : Level := ⟨none, none, .leaf []⟩

/-- The last term, if the level ends here. -/
def term? (level : Level) : Option Condition :=
  level.operand.condition?.map (Formula.join .and level.conjunction)

/-- The condition of the level, if it ends here. -/
def condition? (level : Level) : Option Condition :=
  level.term?.map (Formula.join .or level.disjunction)

/-- The level with another last operand. -/
def withOperand (level : Level) (operand : Operand) : Level :=
  ⟨level.disjunction, level.conjunction, operand⟩

/-- The level behind an `AND`. -/
def behindAnd? (level : Level) : Option Level :=
  level.term?.map fun term => ⟨level.disjunction, some term, .leaf []⟩

/-- The level behind an `OR`. -/
def behindOr? (level : Level) : Option Level :=
  level.condition?.map fun condition => ⟨some condition, none, .leaf []⟩

/-- The level behind one more sign of an atomic condition. -/
def extend? (level : Level) (sign : Sign) : Option Level :=
  match level.operand with
  | .leaf signs => some (level.withOperand (.leaf (signs ++ [sign])))
  | .group _ => none

/-- The level behind a condition between parentheses. -/
def group? (level : Level) (condition : Condition) : Option Level :=
  match level.operand with
  | .leaf [] => some (level.withOperand (.group condition))
  | .leaf (_ :: _) | .group _ => none

end Level

/-- A level and those around it, from the inside out. -/
abbrev Levels := Level × List Level

/-- One step of a reading. -/
def step? (levels : Levels) (sign : Sign) : Option Levels :=
  match sign with
  | .symbol '(' =>
      match levels.1.operand with
      | .leaf [] => some (Level.start, levels.1 :: levels.2)
      | .leaf (_ :: _) | .group _ => none
  | .symbol ')' =>
      match levels.2 with
      | [] => none
      | outer :: rest => do
          return (← outer.group? (← levels.1.condition?), rest)
  | .keyword "and" => levels.1.behindAnd?.map (·, levels.2)
  | .keyword "or" => levels.1.behindOr?.map (·, levels.2)
  | sign => (levels.1.extend? sign).map (·, levels.2)

/-- A reading of signs. -/
def run? (levels : Levels) (signs : List Sign) : Option Levels := signs.foldlM step? levels

/-- The condition that signs stand for. -/
def ofSigns? (signs : List Sign) : Option Condition := do
  let levels ← run? (Level.start, []) signs
  if levels.2.isEmpty then levels.1.condition? else none

/-! ## Reading of written conditions -/

theorem run?_append {levels between : Levels} {before : List Sign}
    (reads : run? levels before = some between) (after : List Sign) :
    run? levels (before ++ after) = run? between after := by
  unfold run? at reads ⊢
  rw [List.foldlM_append, reads]
  rfl

theorem run?_cons {levels next : Levels} {sign : Sign} (steps : step? levels sign = some next)
    (rest : List Sign) : run? levels (sign :: rest) = run? next rest := by
  unfold run?
  rw [List.foldlM_cons, steps]
  rfl

/-- The sign can only be part of an atomic condition. -/
def isAtomic : Sign → Bool
  | .symbol '(' | .symbol ')' | .keyword "and" | .keyword "or" => false
  | _ => true

theorem step?_of_isAtomic {sign : Sign} (atomic : isAtomic sign = true) (levels : Levels) :
    step? levels sign = (levels.1.extend? sign).map (·, levels.2) := by
  unfold isAtomic at atomic
  split at atomic
  · cases atomic
  · cases atomic
  · cases atomic
  · cases atomic
  · simp [step?]

theorem run?_of_isAtomic {signs : List Sign} (atomic : ∀ sign ∈ signs, isAtomic sign = true)
    (terms operands : Option Condition) (before : List Sign) (outer : List Level) :
    run? (⟨terms, operands, .leaf before⟩, outer) signs =
      some (⟨terms, operands, .leaf (before ++ signs)⟩, outer) := by
  induction signs generalizing before with
  | nil => simp [run?]
  | cons sign rest ih =>
      have steps : step? (⟨terms, operands, .leaf before⟩, outer) sign =
          some (⟨terms, operands, .leaf (before ++ [sign])⟩, outer) := by
        rw [step?_of_isAtomic (atomic sign List.mem_cons_self)]
        rfl
      rw [run?_cons steps, ih fun later member => atomic later (List.mem_cons_of_mem sign member)]
      simp

theorem isAtomic_signs_tokens (dialect : Dialect) (atom : Atom) :
    ∀ sign ∈ Token.allSigns dialect atom.tokens, isAtomic sign = true := by
  cases atom with
  | columnsEqual left right =>
      simp [Atom.tokens, ColumnRef.tokens, Token.signs, Comparison.signs, isAtomic]
  | test test =>
      cases test with
      | compare column comparison value =>
          cases comparison <;>
            simp [Atom.tokens, ColumnRef.tokens, Token.signs, Comparison.signs, isAtomic]
      | isNull column | isNotNull column =>
          simp [Atom.tokens, ColumnRef.tokens, Token.signs, Keyword.signs, isAtomic]

namespace Level

/-- The level at which another operand of a connective is expected behind the given ones. Behind
the given terms, it can only be an operand of an `AND`. -/
def awaiting (connective : Connective) (terms operands : Option Condition) : Level :=
  match connective with
  | .and => ⟨terms, operands, .leaf []⟩
  | .or => ⟨operands, none, .leaf []⟩

/-- The operands of a connective that have been read behind the given terms make up the
condition. -/
def Holds (connective : Connective) (terms : Option Condition) (condition : Condition)
    (level : Level) : Prop :=
  match connective with
  | .and => level.disjunction = terms ∧ level.term? = some condition
  | .or => level.condition? = some condition

theorem condition?_of_holds {connective : Connective} {condition : Condition} {level : Level}
    (holds : level.Holds connective none condition) : level.condition? = some condition := by
  cases connective with
  | and => simp [Level.condition?, holds.1, holds.2, Formula.join]
  | or => exact holds

theorem holds_operand {operand : Operand} {condition : Condition}
    (whole : operand.condition? = some condition) (connective : Connective)
    (terms operands : Option Condition) :
    Holds connective terms (Formula.join connective operands condition)
      ((awaiting connective terms operands).withOperand operand) := by
  cases connective with
  | and => simp [Holds, awaiting, withOperand, term?, whole]
  | or => simp [Holds, awaiting, withOperand, Level.condition?, term?, whole, Formula.join]

end Level

theorem run?_connective {connective : Connective} {terms : Option Condition}
    {condition : Condition} {level : Level} (holds : level.Holds connective terms condition)
    (outer : List Level) (rest : List Sign) :
    run? (level, outer) (connective.keyword.signs ++ rest) =
      run? (Level.awaiting connective terms (some condition), outer) rest := by
  cases connective with
  | and =>
      obtain ⟨same, whole⟩ := holds
      apply run?_cons
      simp [step?, Level.behindAnd?, whole, same, Level.awaiting]
  | or =>
      have whole : level.condition? = some condition := holds
      apply run?_cons
      simp [step?, Level.behindOr?, whole, Level.awaiting]

/-- The tokens of an operand of a connective. -/
def operandTokens (connective : Connective) (operand : Condition) : List Token :=
  if operand.clashes connective then Token.enclosed (tokens operand) else tokens operand

theorem tokens_node (connective : Connective) (left right : Condition) :
    tokens (.node connective left right) =
      operandTokens connective left ++
        .keyword connective.keyword :: operandTokens connective right := rfl

/-- An operand in parentheses is read at a level of its own. -/
theorem run?_enclosed {dialect : Dialect} {tokens : List Token} {condition : Condition}
    {level : Level} (connective : Connective) (terms operands : Option Condition)
    (outer : List Level)
    (reads : run? (Level.start, Level.awaiting connective terms operands :: outer)
      (Token.allSigns dialect tokens) =
        some (level, Level.awaiting connective terms operands :: outer))
    (whole : level.condition? = some condition) :
    run? (Level.awaiting connective terms operands, outer)
        (Token.allSigns dialect (Token.enclosed tokens)) =
      some ((Level.awaiting connective terms operands).withOperand (.group condition), outer) := by
  have opens : step? (Level.awaiting connective terms operands, outer) (.symbol '(') =
      some (Level.start, Level.awaiting connective terms operands :: outer) := by
    cases connective <;> rfl
  have closes : step? (level, Level.awaiting connective terms operands :: outer) (.symbol ')') =
      some ((Level.awaiting connective terms operands).withOperand (.group condition), outer) := by
    cases connective <;> simp [step?, whole, Level.awaiting, Level.group?]
  simp only [Token.enclosed, Token.allSigns_cons, Token.allSigns_append, Token.signs,
    List.singleton_append]
  rw [run?_cons opens, run?_append reads]
  exact run?_cons closes []

/-- The text of an operand is read as the operand, with its own chain of the connective taken
apart. -/
theorem run?_operandTokens (dialect : Dialect) (condition : Condition) (connective : Connective)
    (terms operands : Option Condition) (outer : List Level) :
    ∃ level, run? (Level.awaiting connective terms operands, outer)
        (Token.allSigns dialect (operandTokens connective condition)) = some (level, outer) ∧
      level.Holds connective terms
        (Formula.attach connective operands (condition.bound dialect)) := by
  induction condition generalizing connective terms operands outer with
  | atom atom =>
      have reads := run?_of_isAtomic (isAtomic_signs_tokens dialect atom)
      have whole : (Operand.leaf (Token.allSigns dialect atom.tokens)).condition? =
          some (.atom (atom.bound dialect)) := by
        simp [Operand.condition?, Atom.ofSigns?_tokens]
      refine ⟨_, ?_, Level.holds_operand whole connective terms operands⟩
      cases connective with
      | and => exact reads terms operands [] outer
      | or => exact reads operands none [] outer
  | node inner left right left_ih right_ih =>
      -- Both operands of the inner connective, behind the given ones of the same connective.
      have chain (terms operands : Option Condition) (outer : List Level) :
          ∃ level, run? (Level.awaiting inner terms operands, outer)
              (Token.allSigns dialect (tokens (.node inner left right))) = some (level, outer) ∧
            level.Holds inner terms (Formula.attach inner
              (some (Formula.attach inner operands (bound dialect left)))
              (bound dialect right)) := by
        obtain ⟨middle, left_reads, left_holds⟩ := left_ih inner terms operands outer
        obtain ⟨level, right_reads, right_holds⟩ := right_ih inner terms
          (some (Formula.attach inner operands (bound dialect left))) outer
        refine ⟨level, ?_, right_holds⟩
        rw [tokens_node, Token.allSigns_append, run?_append left_reads, Token.allSigns_cons,
          Token.signs, run?_connective left_holds, right_reads]
      by_cases same : inner = connective
      · subst inner
        obtain ⟨level, reads, holds⟩ := chain terms operands outer
        refine ⟨level, ?_, ?_⟩
        · simpa [operandTokens, Formula.clashes] using reads
        · simpa [bound, Formula.map, Formula.attach_same] using holds
      · obtain ⟨level, reads, holds⟩ :=
          chain none none (Level.awaiting connective terms operands :: outer)
        have started : Level.awaiting inner none none = Level.start := by
          cases inner <;> rfl
        rw [started] at reads
        have whole := Level.condition?_of_holds holds
        have attached :
            Formula.attach connective operands (bound dialect (.node inner left right)) =
            Formula.join connective operands (Formula.attach inner
              (some (Formula.attach inner none (bound dialect left))) (bound dialect right)) := by
          simp [bound, Formula.map, Formula.attach, same]
        rw [attached]
        have grouped := run?_enclosed connective terms operands outer reads whole
        have group (condition : Condition) :
            (Operand.group condition).condition? = some condition := rfl
        refine ⟨_, ?_, Level.holds_operand (group _) connective terms operands⟩
        simpa [operandTokens, Formula.clashes, same] using grouped

/-- The text of a condition is read as the condition with its chains nested to the left. -/
theorem ofSigns?_tokens (dialect : Dialect) (condition : Condition) :
    ofSigns? (Token.allSigns dialect (tokens condition)) =
      some (condition.bound dialect).leftAssociated := by
  -- The condition is an operand of the connective that it starts with.
  obtain ⟨connective, bare⟩ :
      ∃ connective, operandTokens connective condition = tokens condition := by
    cases condition with
    | atom atom => exact ⟨.and, rfl⟩
    | node inner left right => exact ⟨inner, by simp [operandTokens, Formula.clashes]⟩
  obtain ⟨level, reads, holds⟩ := run?_operandTokens dialect condition connective none none []
  have started : Level.awaiting connective none none = Level.start := by
    cases connective <;> rfl
  rw [bare, started] at reads
  rw [ofSigns?, reads]
  simpa [Formula.attach_none] using Level.condition?_of_holds holds

end Condition

end TableMapping
