import Mathlib.Computability.Language
import TableMapping.Proofs.Reading.Sign
import TableMapping.Proofs.Statement.Faults

/-!
# The grammar of statements

Which signs make up a statement, as languages over signs. Lists have at least one item and a comma
between any two, every joined table has a condition, and a condition combines tests in any order,
with or without parentheses. A statement tree is written as a sentence if it lists the items that
its text needs.
-/

open Computability

namespace TableMapping

/-! ## Phrases -/

namespace Grammar

/-- The sign alone. -/
def sign (sign : Sign) : Language Sign := {signs | signs = [sign]}

/-- The words of a keyword. -/
def word (word : Keyword) : Language Sign := {signs | signs = word.signs}

/-- A name. -/
def name : Language Sign := {signs | ∃ name, signs = [.name name]}

/-- A value. -/
def value : Language Sign := {signs | ∃ value, signs = [.value value]}

/-- One or more items with commas between them. -/
def listed (item : Language Sign) : Language Sign := item * (sign (.symbol ',') * item)∗

/-- Parentheses around a phrase. -/
def enclosed (phrase : Language Sign) : Language Sign :=
  sign (.symbol '(') * phrase * sign (.symbol ')')

/-- A phrase that may be left out. -/
def optional (phrase : Language Sign) : Language Sign := 1 + phrase

/-- A column with its table. -/
def column : Language Sign := name * sign (.symbol '.') * name

/-- A comparison. -/
def comparison : Language Sign := {signs | ∃ operator : Comparison, signs = operator.signs}

/-- What a column is tested for: how it compares with a value, whether it is absent, or whether it
is equal to another column. -/
def test : Language Sign :=
  comparison * value + word .isNull + word .isNotNull + sign (.symbol '=') * column

/-- A combination of tests of columns. -/
inductive IsCondition : List Sign → Prop
  | atom {signs : List Sign} (tests : signs ∈ column * test) : IsCondition signs
  | node (connective : Connective) {left right : List Sign} (first : IsCondition left)
      (second : IsCondition right) :
      IsCondition (left ++ (connective.keyword.signs ++ right))
  | enclosed {inner : List Sign} (condition : IsCondition inner) :
      IsCondition (.symbol '(' :: (inner ++ [.symbol ')']))

/-- A condition. -/
def condition : Language Sign := {signs | IsCondition signs}

/-! ## Statements -/

/-- The rows that are asked for, if not all. -/
def filter : Language Sign := optional (word .filter * condition)

/-- A joined table with the condition under which its rows go with those of the tables before. -/
def join : Language Sign :=
  (word .innerJoin + word .leftOuterJoin) * name * (word .on * condition)

/-- A query for the given columns. -/
def query (columns : Language Sign) : Language Sign :=
  word .select * columns * word .source * name * join∗ * filter

/-- The rows that are changed: those of a filter, or those for which a query has rows. -/
def changed : Language Sign :=
  filter + word .filterExists * enclosed (query (sign (.number ['1'])))

/-- A storage type of a dialect. -/
def storage (dialect : Dialect) : Language Sign :=
  {signs | ∃ type : StorageType, signs = type.signs dialect}

/-- A column of a table to be created. -/
def definition (dialect : Dialect) : Language Sign :=
  name * storage dialect * optional (word .notNull)

/-- A key of a table to be created. -/
def key : Language Sign :=
  word .constraint * name * (word .primaryKey * enclosed (listed name) +
    word .foreignKey * enclosed (listed name) *
      (word .references * name * enclosed (listed name)))

/-- The creation of a table, with its columns in front of its keys. -/
def creation (dialect : Dialect) : Language Sign :=
  word .createTable * name *
    enclosed (listed (definition dialect) * (sign (.symbol ',') * key)∗)

/-- An insertion of rows, or of one row that the database makes up. -/
def insertion : Language Sign :=
  word .insertInto * name * (word .defaultValues +
    enclosed (listed name) * (word .values * listed (enclosed (listed value))))

/-- A change of columns. -/
def update : Language Sign :=
  word .update * name * word .set * listed (name * sign (.symbol '=') * value) * changed

/-- A removal of rows. -/
def removal : Language Sign := word .deleteFrom * name * changed

/-- A statement. -/
def statement (dialect : Dialect) : Language Sign :=
  creation dialect + insertion + query (listed column) + update + removal

/-! ## Written phrases -/

theorem sign_mem (own : Sign) : [own] ∈ sign own := rfl

theorem word_mem (own : Keyword) : own.signs ∈ word own := rfl

theorem name_mem (own : String) : [.name own] ∈ name := ⟨own, rfl⟩

theorem value_mem (own : SqlValue) : [.value own] ∈ value := ⟨own, rfl⟩

theorem listed_cons_mem {item : Language Sign} {first rest : List Sign} (own : first ∈ item)
    (others : rest ∈ listed item) : first ++ (.symbol ',' :: rest) ∈ listed item := by
  obtain ⟨next, next_own, later, repeated, rfl⟩ := Language.mem_mul.mp others
  refine Language.append_mem_mul own ?_
  have again : (sign (.symbol ',') * item) * (sign (.symbol ',') * item)∗ ≤
      (sign (.symbol ',') * item)∗ := mul_kstar_le_kstar
  have front : .symbol ',' :: next ∈ sign (.symbol ',') * item :=
    Language.append_mem_mul (sign_mem (.symbol ',')) next_own
  exact again (Language.append_mem_mul front repeated)

theorem enclosed_mem {phrase : Language Sign} {signs : List Sign} (own : signs ∈ phrase) :
    .symbol '(' :: (signs ++ [.symbol ')']) ∈ enclosed phrase :=
  Language.append_mem_mul (Language.append_mem_mul (sign_mem (.symbol '(')) own)
    (sign_mem (.symbol ')'))

theorem optional_mem {phrase : Language Sign} {signs : List Sign} (own : signs ∈ phrase) :
    signs ∈ optional phrase := Or.inr own

theorem nil_mem_optional (phrase : Language Sign) : [] ∈ optional phrase := Or.inl rfl

variable {dialect : Dialect}

/-- The signs of a list of items make up a list if there are any items. -/
theorem listing_mem {item : Language Sign} {items : List (List Token)} (present : items ≠ [])
    (own : ∀ tokens ∈ items, Token.allSigns dialect tokens ∈ item) :
    Token.allSigns dialect (Token.listing items) ∈ listed item := by
  induction items with
  | nil => exact absurd rfl present
  | cons first rest ih =>
      obtain ⟨first_own, rest_own⟩ := List.forall_mem_cons.mp own
      cases rest with
      | nil =>
          have alone := Language.append_mem_mul first_own
            (Language.nil_mem_kstar (sign (.symbol ',') * item))
          rwa [List.append_nil] at alone
      | cons next rest =>
          rw [Token.listing, Token.allSigns_append, Token.allSigns_cons]
          exact listed_cons_mem first_own (ih (List.cons_ne_nil next rest) rest_own)

theorem enclosed_tokens_mem {phrase : Language Sign} {tokens : List Token}
    (own : Token.allSigns dialect tokens ∈ phrase) :
    Token.allSigns dialect (Token.enclosed tokens) ∈ enclosed phrase := by
  rw [Token.enclosed, Token.allSigns_cons, Token.allSigns_append]
  exact enclosed_mem own

theorem names_mem {names : List String} (present : names ≠ []) :
    Token.allSigns dialect (Token.names names) ∈ enclosed (listed name) := by
  refine enclosed_tokens_mem (listing_mem (by simpa using present) fun tokens member => ?_)
  obtain ⟨own, -, rfl⟩ := List.mem_map.mp member
  exact name_mem own

theorem column_mem (reference : ColumnRef) :
    Token.allSigns dialect reference.tokens ∈ column := by
  have shape : Token.allSigns dialect reference.tokens =
      ([.name reference.table] ++ [.symbol '.']) ++ [.name reference.column] := rfl
  rw [shape]
  exact Language.append_mem_mul (Language.append_mem_mul (name_mem reference.table)
    (sign_mem (.symbol '.'))) (name_mem reference.column)

/-! ### Conditions -/

theorem atom_mem (atom : Atom) : Token.allSigns dialect atom.tokens ∈ column * test := by
  cases atom with
  | columnsEqual left right =>
      rw [Atom.tokens, Token.allSigns_append]
      exact Language.append_mem_mul (column_mem left) (.inr
        (Language.append_mem_mul (sign_mem (.symbol '=')) (column_mem right)))
  | test test =>
      cases test with
      | compare reference operator given =>
          rw [Atom.tokens, Token.allSigns_append]
          exact Language.append_mem_mul (column_mem reference) (.inl (.inl (.inl
            (Language.append_mem_mul ⟨operator, rfl⟩ (value_mem (dialect.bind given))))))
      | isNull reference =>
          rw [Atom.tokens, Token.allSigns_append]
          exact Language.append_mem_mul (column_mem reference) (.inl (.inl (.inr rfl)))
      | isNotNull reference =>
          rw [Atom.tokens, Token.allSigns_append]
          exact Language.append_mem_mul (column_mem reference) (.inl (.inr rfl))

theorem condition_mem (own : Condition) : Token.allSigns dialect own.tokens ∈ condition := by
  induction own with
  | atom atom => exact .atom (atom_mem atom)
  | node connective left right left_ih right_ih =>
      have operand (side : Condition) (whole : Token.allSigns dialect side.tokens ∈ condition) :
          Token.allSigns dialect (if side.clashes connective then Token.enclosed side.tokens
            else side.tokens) ∈ condition := by
        split
        · rw [Token.enclosed, Token.allSigns_cons, Token.allSigns_append]
          exact .enclosed whole
        · exact whole
      rw [Condition.tokens, Token.allSigns_append, Token.allSigns_cons]
      exact .node connective (operand left left_ih) (operand right right_ih)

theorem filter_mem (own : Option Condition) :
    Token.allSigns dialect (Condition.filterTokens own) ∈ filter := by
  cases own with
  | none => exact nil_mem_optional _
  | some condition =>
      exact optional_mem (Language.append_mem_mul (word_mem .filter) (condition_mem condition))

/-! ### Queries -/

theorem join_mem {own : Join} (filled : own.on ≠ []) :
    Token.allSigns dialect own.tokens ∈ join := by
  obtain ⟨on, condition_eq⟩ : ∃ on, own.condition? = some on := by
    obtain ⟨pair, rest, on_eq⟩ := List.exists_cons_of_ne_nil filled
    rw [Join.condition?, on_eq]
    exact ⟨_, rfl⟩
  have kind_mem : own.kind.keyword.signs ∈ word .innerJoin + word .leftOuterJoin := by
    cases own.kind with
    | inner => exact .inl rfl
    | leftOuter => exact .inr rfl
  have shape : Token.allSigns dialect own.tokens =
      (own.kind.keyword.signs ++ [.name own.table]) ++
        (Keyword.on.signs ++ Token.allSigns dialect on.tokens) := by
    simp [Join.tokens, condition_eq, Token.signs]
  rw [shape]
  exact Language.append_mem_mul (Language.append_mem_mul kind_mem (name_mem own.table))
    (Language.append_mem_mul (word_mem .on) (condition_mem on))

theorem joins_mem {joins : List Join} (filled : Join.AllFilled joins) :
    Token.allSigns dialect (joins.flatMap Join.tokens) ∈ join∗ := by
  have flat : Token.allSigns dialect (joins.flatMap Join.tokens) =
      (joins.map fun own => Token.allSigns dialect own.tokens).flatten := by
    rw [Token.allSigns, List.flatMap_assoc, ← List.flatMap_def]
    rfl
  rw [flat]
  refine Language.join_mem_kstar fun signs member => ?_
  obtain ⟨own, listed, rfl⟩ := List.mem_map.mp member
  exact join_mem (filled own listed)

theorem query_mem {columns : Language Sign} {selected : List Token} {source : String}
    {joins : List Join} {condition : Option Condition}
    (own : Token.allSigns dialect selected ∈ columns) (filled : Join.AllFilled joins) :
    Token.allSigns dialect (.keyword .select ::
      (selected ++ [.keyword .source, .identifier source] ++ joins.flatMap Join.tokens ++
        Condition.filterTokens condition)) ∈ query columns := by
  have shape : Token.allSigns dialect (.keyword .select ::
      (selected ++ [.keyword .source, .identifier source] ++ joins.flatMap Join.tokens ++
        Condition.filterTokens condition)) =
      Keyword.select.signs ++ Token.allSigns dialect selected ++ Keyword.source.signs ++
        [.name source] ++ Token.allSigns dialect (joins.flatMap Join.tokens) ++
        Token.allSigns dialect (Condition.filterTokens condition) := by
    simp [Token.signs]
  rw [shape]
  have start := Language.append_mem_mul (word_mem .select) own
  have source_mem := Language.append_mem_mul (Language.append_mem_mul start (word_mem .source))
    (name_mem source)
  exact Language.append_mem_mul (Language.append_mem_mul source_mem (joins_mem filled))
    (filter_mem condition)

theorem changed_mem {joins : List Join} (filled : Join.AllFilled joins.tail)
    (condition : Option Condition) :
    Token.allSigns dialect (Join.correlatedTokens condition joins) ∈ changed := by
  cases joins with
  | nil => exact .inl (filter_mem condition)
  | cons first rest =>
      have single : Token.allSigns dialect [.one] ∈ sign (.number ['1']) := rfl
      exact .inr (Language.append_mem_mul (word_mem .filterExists)
        (enclosed_tokens_mem (query_mem single filled)))

/-! ### Creations -/

theorem definition_mem {own : ColumnDefinition} (supported : dialect.storageType? own.type ≠ none) :
    Token.allSigns dialect (own.tokens dialect) ∈ definition dialect := by
  obtain ⟨type, found⟩ := Option.ne_none_iff_exists'.mp supported
  have required : Token.allSigns dialect (if own.nullable then [] else [.keyword .notNull]) ∈
      optional (word .notNull) := by
    split
    · exact nil_mem_optional _
    · exact optional_mem rfl
  have shape : Token.allSigns dialect (own.tokens dialect) =
      [.name own.name] ++ type.signs dialect ++
        Token.allSigns dialect (if own.nullable then [] else [.keyword .notNull]) := by
    simp [ColumnDefinition.tokens, found, Token.signs]
  rw [shape]
  exact Language.append_mem_mul (Language.append_mem_mul (name_mem own.name) ⟨type, rfl⟩) required

theorem key_mem {own : TableConstraint} (filled : own.Filled) :
    Token.allSigns dialect own.tokens ∈ key := by
  cases own with
  | primaryKey name columns =>
      have shape : Token.allSigns dialect (TableConstraint.primaryKey name columns).tokens =
          (Keyword.constraint.signs ++ [.name name]) ++
            (Keyword.primaryKey.signs ++ Token.allSigns dialect (Token.names columns)) := by
        simp [TableConstraint.tokens, Token.signs]
      rw [shape]
      exact Language.append_mem_mul (Language.append_mem_mul (word_mem .constraint) (name_mem name))
        (.inl (Language.append_mem_mul (word_mem .primaryKey) (names_mem filled)))
  | foreignKey name columns table references =>
      have shape : Token.allSigns dialect
          (TableConstraint.foreignKey name columns table references).tokens =
          (Keyword.constraint.signs ++ [.name name]) ++
            (Keyword.foreignKey.signs ++ Token.allSigns dialect (Token.names columns) ++
              (Keyword.references.signs ++ [.name table] ++
                Token.allSigns dialect (Token.names references))) := by
        simp [TableConstraint.tokens, Token.signs]
      rw [shape]
      have own_names : Token.allSigns dialect (Token.names columns) ∈
          enclosed (listed Grammar.name) := names_mem filled.1
      have referred_names : Token.allSigns dialect (Token.names references) ∈
          enclosed (listed Grammar.name) := names_mem filled.2
      have columns_mem := Language.append_mem_mul (word_mem .foreignKey) own_names
      have referred := Language.append_mem_mul (Language.append_mem_mul (word_mem .references)
        (name_mem table)) referred_names
      exact Language.append_mem_mul (Language.append_mem_mul (word_mem .constraint) (name_mem name))
        (.inr (Language.append_mem_mul columns_mem referred))

theorem keys_mem {keys : List TableConstraint} (filled : ∀ key ∈ keys, key.Filled) :
    Token.allSigns dialect (keys.flatMap fun key => .comma :: key.tokens) ∈
      (sign (.symbol ',') * key)∗ := by
  have flat : Token.allSigns dialect (keys.flatMap fun key => .comma :: key.tokens) =
      (keys.map fun key => [.symbol ','] ++ Token.allSigns dialect key.tokens).flatten := by
    rw [Token.allSigns, List.flatMap_assoc, ← List.flatMap_def]
    rfl
  rw [flat]
  refine Language.join_mem_kstar fun signs member => ?_
  obtain ⟨own, listed, rfl⟩ := List.mem_map.mp member
  exact Language.append_mem_mul (sign_mem (.symbol ',')) (key_mem (filled own listed))

theorem creation_mem {create : CreateTable} (filled : create.Filled)
    (supported : ∀ column ∈ create.columns, dialect.storageType? column.type ≠ none) :
    Token.allSigns dialect (create.tokens dialect) ∈ creation dialect := by
  have columns_mem : Token.allSigns dialect
      (Token.listing (create.columns.map (ColumnDefinition.tokens dialect))) ∈
        listed (definition dialect) := by
    refine listing_mem (by simpa using filled.columns_ne_nil) fun tokens member => ?_
    obtain ⟨own, listed, rfl⟩ := List.mem_map.mp member
    exact definition_mem (supported own listed)
  have elements : Token.allSigns dialect
      (Token.listing (create.columns.map (ColumnDefinition.tokens dialect)) ++
        create.constraints.flatMap fun key => .comma :: key.tokens) ∈
        listed (definition dialect) * (sign (.symbol ',') * key)∗ := by
    rw [Token.allSigns_append]
    exact Language.append_mem_mul columns_mem (keys_mem filled.constraints_filled)
  have shape : Token.allSigns dialect (create.tokens dialect) =
      Keyword.createTable.signs ++ [.name create.table] ++ Token.allSigns dialect (Token.enclosed
        (Token.listing (create.columns.map (ColumnDefinition.tokens dialect)) ++
          create.constraints.flatMap fun key => .comma :: key.tokens)) := rfl
  rw [shape]
  exact Language.append_mem_mul (Language.append_mem_mul (word_mem .createTable)
    (name_mem create.table)) (enclosed_tokens_mem elements)

/-! ### Insertions -/

theorem row_mem {row : List SqlValue} (present : row ≠ []) :
    Token.allSigns dialect (Insert.rowTokens row) ∈ enclosed (listed value) := by
  refine enclosed_tokens_mem (listing_mem (by simpa using present) fun tokens member => ?_)
  obtain ⟨own, -, rfl⟩ := List.mem_map.mp member
  exact value_mem (dialect.bind own)

theorem insertion_mem {insert : Insert} (filled : insert.Filled) :
    Token.allSigns dialect insert.tokens ∈ insertion := by
  have front := Language.append_mem_mul (word_mem .insertInto) (name_mem insert.table)
  by_cases none : insert.columns = []
  · have shape : Token.allSigns dialect insert.tokens =
        Keyword.insertInto.signs ++ [.name insert.table] ++ Keyword.defaultValues.signs := by
      simp [Insert.tokens, none, Token.signs]
    rw [shape]
    exact Language.append_mem_mul front (.inl (word_mem .defaultValues))
  · have rows_mem : Token.allSigns dialect (Token.listing (insert.rows.map Insert.rowTokens)) ∈
        listed (enclosed (listed value)) := by
      refine listing_mem (by simpa using filled.rows_ne_nil) fun tokens member => ?_
      obtain ⟨row, row_listed, rfl⟩ := List.mem_map.mp member
      refine row_mem fun empty => none (List.eq_nil_of_length_eq_zero ?_)
      rw [← filled.lengths_eq row row_listed, empty, List.length_nil]
    have shape : Token.allSigns dialect insert.tokens =
        (Keyword.insertInto.signs ++ [.name insert.table]) ++
          (Token.allSigns dialect (Token.names insert.columns) ++ (Keyword.values.signs ++
            Token.allSigns dialect (Token.listing (insert.rows.map Insert.rowTokens)))) := by
      simp [Insert.tokens, none, Token.signs]
    rw [shape]
    exact Language.append_mem_mul front (.inr (Language.append_mem_mul (names_mem none)
      (Language.append_mem_mul (word_mem .values) rows_mem)))

/-! ### Changes -/

theorem assignment_mem (assigned : String × SqlValue) :
    Token.allSigns dialect (Update.assignmentTokens assigned) ∈
      name * sign (.symbol '=') * value := by
  have shape : Token.allSigns dialect (Update.assignmentTokens assigned) =
      ([.name assigned.1] ++ [.symbol '=']) ++ [.value (dialect.bind assigned.2)] := rfl
  rw [shape]
  exact Language.append_mem_mul (Language.append_mem_mul (name_mem assigned.1)
    (sign_mem (.symbol '='))) (value_mem _)

theorem update_mem {own : Update} (present : own.assignments ≠ [])
    (filled : Join.AllFilled own.joins.tail) :
    Token.allSigns dialect own.tokens ∈ update := by
  have assignments_mem : Token.allSigns dialect
      (Token.listing (own.assignments.map Update.assignmentTokens)) ∈
        listed (name * sign (.symbol '=') * value) := by
    refine listing_mem (by simpa using present) fun tokens member => ?_
    obtain ⟨assigned, -, rfl⟩ := List.mem_map.mp member
    exact assignment_mem assigned
  have shape : Token.allSigns dialect own.tokens =
      Keyword.update.signs ++ [.name own.table] ++ Keyword.set.signs ++
        Token.allSigns dialect (Token.listing (own.assignments.map Update.assignmentTokens)) ++
        Token.allSigns dialect (Join.correlatedTokens own.filter own.joins) := by
    simp [Update.tokens, Token.signs]
  rw [shape]
  have front := Language.append_mem_mul (Language.append_mem_mul (word_mem .update)
    (name_mem own.table)) (word_mem .set)
  exact Language.append_mem_mul (Language.append_mem_mul front assignments_mem)
    (changed_mem filled own.filter)

theorem removal_mem {own : Delete} (filled : Join.AllFilled own.joins.tail) :
    Token.allSigns dialect own.tokens ∈ removal := by
  have shape : Token.allSigns dialect own.tokens = Keyword.deleteFrom.signs ++ [.name own.table] ++
      Token.allSigns dialect (Join.correlatedTokens own.filter own.joins) := rfl
  rw [shape]
  exact Language.append_mem_mul (Language.append_mem_mul (word_mem .deleteFrom)
    (name_mem own.table)) (changed_mem filled own.filter)

end Grammar

/-! ## Statements that list their items -/

/-- A statement lists the items that its text needs: a creation has columns, and so does each key;
every joined table has a condition. The first of the tables that are joined to an update or a
removal is not joined in the text, and may do without one. -/
def Statement.ListsItems : Statement → Prop
  | createTable tree => tree.Filled
  | insert _ => True
  | select tree => Join.AllFilled tree.joins
  | update tree => Join.AllFilled tree.joins.tail
  | delete tree => Join.AllFilled tree.joins.tail

/-- A statement that is not at fault and lists its items is written as a sentence. -/
theorem Statement.ListsItems.sentence {dialect : Dialect} {statement : Statement}
    (lists : statement.ListsItems) (writable : statement.Writable dialect) :
    Token.allSigns dialect (statement.tokens dialect) ∈ Grammar.statement dialect := by
  cases statement with
  | createTable tree => exact .inl (.inl (.inl (.inl (Grammar.creation_mem lists writable))))
  | insert tree => exact .inl (.inl (.inl (.inr (Grammar.insertion_mem writable))))
  | select tree =>
      refine .inl (.inl (.inr (Grammar.query_mem (Grammar.listing_mem ?_ ?_) lists)))
      · simpa using writable.1
      · intro tokens member
        obtain ⟨reference, -, rfl⟩ := List.mem_map.mp member
        exact Grammar.column_mem reference
  | update tree => exact .inl (.inr (Grammar.update_mem writable.1 lists))
  | delete tree => exact .inr (Grammar.removal_mem lists)

end TableMapping
