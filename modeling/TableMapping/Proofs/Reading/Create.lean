import TableMapping.Proofs.Reading.Insert
import TableMapping.Proofs.Statement.Filled

/-!
# Reading of creations

What the text of the creation of a table says of the table: the columns, each with its storage type,
and the keys. These are the elements of a list whose commas stand outside all inner parentheses.
-/

namespace TableMapping

/-! ## Elements of a list -/

namespace Sign

/-- The number of open parentheses behind a sign, given that in front of it. -/
def depthBehind (depth : Nat) : Sign → Nat
  | symbol '(' => depth + 1
  | symbol ')' => depth - 1
  | _ => depth

/-- The signs of the first element of a list, inside of which the given number of parentheses is
open, and those of each later one. -/
def elements : Nat → List Sign → List Sign × List (List Sign)
  | _, [] => ([], [])
  | 0, symbol ',' :: rest => ([], (elements 0 rest).1 :: (elements 0 rest).2)
  | depth, sign :: rest =>
      (sign :: (elements (sign.depthBehind depth) rest).1,
        (elements (sign.depthBehind depth) rest).2)

/-- The signs of each element of a list. -/
def allElements (signs : List Sign) : List (List Sign) :=
  (elements 0 signs).1 :: (elements 0 signs).2

/-- The signs stay within one element and close the parentheses that they open, if the given number
of parentheses is open in front of them. -/
def InElement (depth : Nat) (signs : List Sign) : Prop :=
  ∀ rest, elements depth (signs ++ rest) =
    (signs ++ (elements depth rest).1, (elements depth rest).2)

variable {depth : Nat} {signs later : List Sign}

theorem elements_cons {sign : Sign} (inside : depth = 0 → sign ≠ symbol ',') (rest : List Sign) :
    elements depth (sign :: rest) =
      (sign :: (elements (sign.depthBehind depth) rest).1,
        (elements (sign.depthBehind depth) rest).2) := by
  refine elements.eq_3 depth sign rest ?_
  rintro rfl rfl
  exact inside rfl rfl

theorem InElement.append (first : InElement depth signs) (second : InElement depth later) :
    InElement depth (signs ++ later) := by
  intro rest
  rw [List.append_assoc, first, second, List.append_assoc]

theorem inElement_of_forall (flat : ∀ sign ∈ signs, sign.depthBehind depth = depth)
    (inside : depth = 0 → symbol ',' ∉ signs) : InElement depth signs := by
  intro rest
  induction signs with
  | nil => rfl
  | cons sign signs ih =>
      have first : depth = 0 → sign ≠ symbol ',' := by
        rintro outside rfl
        exact inside outside List.mem_cons_self
      have others := ih (fun other member => flat other (List.mem_cons_of_mem sign member))
        fun outside member => inside outside (List.mem_cons_of_mem sign member)
      rw [List.cons_append, elements_cons first, flat sign List.mem_cons_self, others]
      rfl

theorem InElement.enclosed (inner : InElement (depth + 1) signs) :
    InElement depth (symbol '(' :: (signs ++ [symbol ')'])) := by
  intro rest
  have opened : (symbol '(').depthBehind depth = depth + 1 := rfl
  have closed : (symbol ')').depthBehind (depth + 1) = depth := rfl
  rw [List.cons_append, elements_cons (by simp), opened, List.append_assoc, inner,
    List.singleton_append, elements_cons (by simp), closed]
  simp

theorem allElements_listing (dialect : Dialect) {items : List (List Token)} (listed : items ≠ [])
    (inside : ∀ item ∈ items, InElement 0 (Token.allSigns dialect item)) :
    allElements (Token.allSigns dialect (Token.listing items)) =
      items.map (Token.allSigns dialect) := by
  induction items with
  | nil => exact absurd rfl listed
  | cons first others ih =>
      have own := inside first List.mem_cons_self
      cases others with
      | nil =>
          have alone := own []
          rw [List.append_nil] at alone
          simp [Token.listing, allElements, alone, elements]
      | cons next others =>
          have later := ih (List.cons_ne_nil next others)
            fun item member => inside item (List.mem_cons_of_mem first member)
          have shape : Token.allSigns dialect (Token.listing (first :: next :: others)) =
              Token.allSigns dialect first ++ symbol ',' ::
                Token.allSigns dialect (Token.listing (next :: others)) := by
            simp [Token.listing, Token.signs]
          rw [List.map_cons, ← later, shape, allElements, own, elements, List.append_nil]
          rfl

end Sign

namespace Token

theorem inElement_names (dialect : Dialect) (list : List String) :
    Sign.InElement 0 (allSigns dialect (names list)) := by
  have inner : Sign.InElement 1
      (allSigns dialect (listing (list.map fun name => [identifier name]))) := by
    refine Sign.inElement_of_forall (fun sign member => ?_) (by simp)
    rcases mem_allSigns_listing member with rfl | ⟨item, listed, own⟩
    · rfl
    · obtain ⟨name, -, rfl⟩ := List.mem_map.mp listed
      obtain rfl : sign = .name name := by simpa [signs] using own
      rfl
  simpa [names, enclosed, signs] using inner.enclosed

theorem listing_append {items more : List (List Token)} (listed : items ≠ []) :
    listing items ++ more.flatMap (fun item => comma :: item) = listing (items ++ more) := by
  induction items with
  | nil => exact absurd rfl listed
  | cons first others ih =>
      cases others with
      | nil =>
          induction more generalizing first with
          | nil => simp [listing]
          | cons item more more_ih => simpa [listing] using more_ih item
      | cons next others => simpa [listing] using ih (List.cons_ne_nil next others)

end Token

/-! ## Storage types -/

namespace StorageType

/-- Every storage type. -/
def all : List StorageType :=
  [varchar, text, boolean, integer, integerAutoIncrement, serial, uuid, date, time,
    timeNanosecond, timeMicrosecond, dateTime, timestamp, timestampWithTimeZone]

/-- The storage type that signs stand for. -/
def ofSigns? (dialect : Dialect) (signs : List Sign) : Option StorageType :=
  all.find? fun type => type.signs dialect = signs

theorem ofSigns?_signs (dialect : Dialect) (type : StorageType) :
    ofSigns? dialect (type.signs dialect) = some type := by
  cases dialect <;> cases type <;> rfl

theorem inElement_signs (dialect : Dialect) (type : StorageType) :
    Sign.InElement 0 (type.signs dialect) := by
  cases dialect <;> cases type <;> exact fun rest => rfl

end StorageType

/-! ## Tables as they are created -/

/-- A column of a table as it is created. -/
structure CreatedColumn where
  name : String
  /-- The storage type, if the dialect has one for the column. -/
  type? : Option StorageType
  nullable : Bool
deriving DecidableEq, Repr

/-- A table as it is created. -/
structure Creation where
  table : String
  columns : List CreatedColumn
  constraints : List TableConstraint
deriving DecidableEq, Repr

/-! ### Reading -/

/-- The column that an element stands for. -/
def CreatedColumn.ofSigns? (dialect : Dialect) : List Sign → Option CreatedColumn
  | .name name :: rest =>
      let type? := StorageType.ofSigns? dialect (rest.takeWhile (· ≠ .keyword "not"))
      match rest.dropWhile (· ≠ .keyword "not") with
      | [] => some ⟨name, type?, true⟩
      | [.keyword "not", .keyword "null"] => some ⟨name, type?, false⟩
      | _ => none
  | _ => none

namespace TableConstraint

/-- The reference to the columns of a table that signs stand for. -/
def reference? : List Sign → Option (String × List String)
  | .keyword "references" :: .name table :: .symbol '(' :: rest =>
      match Insert.names? rest with
      | some (references, []) => some (table, references)
      | _ => none
  | _ => none

/-- The key that an element stands for. -/
def ofSigns? : List Sign → Option TableConstraint
  | .keyword "constraint" :: .name name :: .keyword "primary" :: .name "KEY" :: .symbol '(' ::
      rest =>
      match Insert.names? rest with
      | some (columns, []) => some (.primaryKey name columns)
      | _ => none
  | .keyword "constraint" :: .name name :: .keyword "foreign" :: .name "KEY" :: .symbol '(' ::
      rest =>
      (Insert.names? rest).bind fun own =>
        (reference? own.2).map fun referred => .foreignKey name own.1 referred.1 referred.2
  | _ => none

end TableConstraint

namespace Creation

/-- The columns and the keys that elements stand for, where the keys stand behind the columns. -/
def parts? (dialect : Dialect) :
    List (List Sign) → Option (List CreatedColumn × List TableConstraint)
  | (.name name :: signs) :: rest => do
      let column ← CreatedColumn.ofSigns? dialect (.name name :: signs)
      let (columns, constraints) ← parts? dialect rest
      return (column :: columns, constraints)
  | elements => (elements.mapM TableConstraint.ofSigns?).map ([], ·)

/-- The creation that signs stand for. -/
def ofSigns? (dialect : Dialect) : List Sign → Option Creation
  | .keyword "create" :: .keyword "table" :: .name "IF" :: .keyword "not" ::
      .keyword "exists" :: .name table :: .symbol '(' :: rest =>
      if rest.getLast? = some (.symbol ')') then
        (parts? dialect (Sign.allElements rest.dropLast)).map fun parts =>
          ⟨table, parts.1, parts.2⟩
      else
        none
  | _ => none

end Creation

/-- The creation that a compiled statement asks for. -/
def CompiledStatement.creation? (dialect : Dialect) (compiled : CompiledStatement) :
    Option Creation :=
  (compiled.signs? dialect).bind (Creation.ofSigns? dialect)

/-! ### Reading of written creations -/

/-- The column as it is read from its text. -/
def ColumnDefinition.reading (dialect : Dialect) (column : ColumnDefinition) : CreatedColumn :=
  ⟨column.name, dialect.storageType? column.type, column.nullable⟩

/-- The creation as it is read from its text. -/
def CreateTable.reading (dialect : Dialect) (create : CreateTable) : Creation :=
  ⟨create.table, create.columns.map (ColumnDefinition.reading dialect), create.constraints⟩

namespace StorageType

/-- The signs of the storage type that a dialect has for a column, if it has one. -/
def signsOf? (dialect : Dialect) (type? : Option StorageType) : List Sign :=
  (type?.map (signs dialect)).getD []

theorem ofSigns?_signsOf? (dialect : Dialect) (type? : Option StorageType) :
    ofSigns? dialect (signsOf? dialect type?) = type? := by
  cases type? with
  | none => cases dialect <;> rfl
  | some type => exact ofSigns?_signs dialect type

theorem not_mem_signsOf? (dialect : Dialect) (type? : Option StorageType) :
    .keyword "not" ∉ signsOf? dialect type? := by
  cases type? with
  | none => exact List.not_mem_nil
  | some type => cases dialect <;> cases type <;> decide

theorem inElement_signsOf? (dialect : Dialect) (type? : Option StorageType) :
    Sign.InElement 0 (signsOf? dialect type?) := by
  cases type? with
  | none => exact fun rest => rfl
  | some type => exact type.inElement_signs dialect

end StorageType

namespace ColumnDefinition

theorem allSigns_tokens (dialect : Dialect) (column : ColumnDefinition) :
    Token.allSigns dialect (column.tokens dialect) =
      .name column.name :: (StorageType.signsOf? dialect (dialect.storageType? column.type) ++
        if column.nullable then [] else [.keyword "not", .keyword "null"]) := by
  have type : Token.allSigns dialect
      ((dialect.storageType? column.type).toList.map .storage) =
        StorageType.signsOf? dialect (dialect.storageType? column.type) := by
    cases dialect.storageType? column.type <;> simp [StorageType.signsOf?, Token.signs]
  rw [tokens, Token.allSigns_cons, Token.allSigns_append, type]
  cases column.nullable <;> simp [Token.signs, Keyword.signs]

end ColumnDefinition

namespace CreatedColumn

theorem ofSigns?_tokens (dialect : Dialect) (column : ColumnDefinition) :
    ofSigns? dialect (Token.allSigns dialect (column.tokens dialect)) =
      some (column.reading dialect) := by
  have plain : ∀ sign ∈ StorageType.signsOf? dialect (dialect.storageType? column.type),
      decide (sign ≠ .keyword "not") = true := by
    intro sign member
    refine decide_eq_true fun same => ?_
    exact StorageType.not_mem_signsOf? dialect _ (same ▸ member)
  rw [column.allSigns_tokens, ofSigns?, List.takeWhile_append_of_pos plain,
    List.dropWhile_append_of_pos plain, ColumnDefinition.reading]
  cases column.nullable <;> simp [StorageType.ofSigns?_signsOf?]

theorem inElement_tokens (dialect : Dialect) (column : ColumnDefinition) :
    Sign.InElement 0 (Token.allSigns dialect (column.tokens dialect)) := by
  have named : Sign.InElement 0 [.name column.name] := fun rest => rfl
  have required : Sign.InElement 0
      (if column.nullable then [] else [.keyword "not", .keyword "null"]) := by
    cases column.nullable <;> exact fun rest => rfl
  rw [column.allSigns_tokens]
  exact named.append ((StorageType.inElement_signsOf? dialect _).append required)

end CreatedColumn

namespace TableConstraint

theorem reference?_tokens (dialect : Dialect) (table : String) {references : List String}
    (present : references ≠ []) :
    reference? (.keyword "references" :: .name table ::
      Token.allSigns dialect (Token.names references)) = some (table, references) := by
  have listed := Insert.names?_listing dialect present []
  simp [Token.names, Token.enclosed, Token.signs, reference?, listed]

/-- A key is read from its text. -/
theorem ofSigns?_tokens (dialect : Dialect) {constraint : TableConstraint}
    (filled : constraint.Filled) :
    ofSigns? (Token.allSigns dialect constraint.tokens) = some constraint := by
  cases constraint with
  | primaryKey name columns =>
      have listed := Insert.names?_listing dialect filled []
      simp [tokens, Token.names, Token.enclosed, Token.signs, Keyword.signs, ofSigns?, listed]
  | foreignKey name columns table references =>
      have reference := reference?_tokens dialect table filled.2
      have listed := Insert.names?_listing dialect filled.1 (.keyword "references" ::
        .name table :: Token.allSigns dialect (Token.names references))
      simp only [tokens, Token.names, Token.enclosed, Token.signs, Keyword.signs,
        Token.allSigns_cons, Token.allSigns_append, List.cons_append, List.nil_append,
        List.append_assoc, Token.allSigns_nil] at listed reference ⊢
      rw [ofSigns?, listed, Option.bind_some, reference, Option.map_some]

theorem inElement_tokens (dialect : Dialect) (constraint : TableConstraint) :
    Sign.InElement 0 (Token.allSigns dialect constraint.tokens) := by
  have names := Token.inElement_names dialect
  cases constraint with
  | primaryKey name columns =>
      have keyed : Sign.InElement 0 [.keyword "constraint", .name name, .keyword "primary",
        .name "KEY"] := fun rest => rfl
      simpa [tokens, Token.signs, Keyword.signs] using keyed.append (names columns)
  | foreignKey name columns table references =>
      have keyed : Sign.InElement 0 [.keyword "constraint", .name name, .keyword "foreign",
        .name "KEY"] := fun rest => rfl
      have referring : Sign.InElement 0 [.keyword "references", .name table] := fun rest => rfl
      simpa [tokens, Token.signs, Keyword.signs] using
        (keyed.append (names columns)).append (referring.append (names references))

end TableConstraint

namespace Creation

theorem parts?_tokens (dialect : Dialect) (columns : List ColumnDefinition)
    {constraints : List TableConstraint}
    (filled : ∀ constraint ∈ constraints, constraint.Filled) :
    parts? dialect (columns.map (fun column => Token.allSigns dialect (column.tokens dialect)) ++
        constraints.map fun constraint => Token.allSigns dialect constraint.tokens) =
      some (columns.map (ColumnDefinition.reading dialect), constraints) := by
  induction columns with
  | nil =>
      have keys : (constraints.map fun constraint =>
          Token.allSigns dialect constraint.tokens).mapM TableConstraint.ofSigns? =
            some constraints := by
        induction constraints with
        | nil => rfl
        | cons constraint rest ih =>
            have read := TableConstraint.ofSigns?_tokens dialect
              (filled constraint List.mem_cons_self)
            have later := ih fun other member =>
              filled other (List.mem_cons_of_mem constraint member)
            rw [List.map_cons, List.mapM_cons, read, later]
            rfl
      have unnamed : ∀ name signs rest, (constraints.map fun constraint =>
          Token.allSigns dialect constraint.tokens) = (.name name :: signs) :: rest → False := by
        intro name signs rest same
        obtain ⟨constraint, -, -, first, -⟩ := List.map_eq_cons_iff.mp same
        cases constraint <;> simp [TableConstraint.tokens, Token.signs, Keyword.signs] at first
      rw [List.map_nil, List.nil_append, parts?.eq_2 _ _ unnamed, keys]
      rfl
  | cons column columns ih =>
      have read := CreatedColumn.ofSigns?_tokens dialect column
      rw [List.map_cons, List.cons_append, column.allSigns_tokens]
      rw [column.allSigns_tokens] at read
      rw [parts?, read, ih]
      rfl

/-- The list between the outer parentheses has the columns and the keys for its elements. -/
theorem allElements_tokens (dialect : Dialect) {create : CreateTable}
    (present : create.columns ≠ []) :
    Sign.allElements (Token.allSigns dialect
        (Token.listing (create.columns.map (ColumnDefinition.tokens dialect)) ++
          create.constraints.flatMap fun constraint => .comma :: constraint.tokens)) =
      create.columns.map (fun column => Token.allSigns dialect (column.tokens dialect)) ++
        create.constraints.map fun constraint => Token.allSigns dialect constraint.tokens := by
  let items := create.columns.map (ColumnDefinition.tokens dialect) ++
    create.constraints.map TableConstraint.tokens
  have listed : items ≠ [] := by simp [items, present]
  have flat : create.constraints.flatMap (fun constraint => .comma :: constraint.tokens) =
      (create.constraints.map TableConstraint.tokens).flatMap fun item => .comma :: item := by
    rw [List.flatMap_map]
  have columns_listed : create.columns.map (ColumnDefinition.tokens dialect) ≠ [] := by
    simpa using present
  have inside : ∀ item ∈ items, Sign.InElement 0 (Token.allSigns dialect item) := by
    intro item member
    rcases List.mem_append.mp member with is_column | is_key
    · obtain ⟨column, -, rfl⟩ := List.mem_map.mp is_column
      exact CreatedColumn.inElement_tokens dialect column
    · obtain ⟨constraint, -, rfl⟩ := List.mem_map.mp is_key
      exact TableConstraint.inElement_tokens dialect constraint
  rw [flat, Token.listing_append columns_listed, Sign.allElements_listing dialect listed inside]
  simp [items, Function.comp_def]

theorem ofSigns?_tokens (dialect : Dialect) {create : CreateTable} (filled : create.Filled) :
    ofSigns? dialect (Token.allSigns dialect (create.tokens dialect)) =
      some (create.reading dialect) := by
  have elements := allElements_tokens dialect filled.columns_ne_nil
  have parts := parts?_tokens dialect create.columns filled.constraints_filled
  have shape (list : List Token) : Token.allSigns dialect (.keyword .createTable ::
      .identifier create.table :: Token.enclosed list) =
    .keyword "create" :: .keyword "table" :: .name "IF" :: .keyword "not" ::
      .keyword "exists" :: .name create.table :: .symbol '(' ::
        (Token.allSigns dialect list ++ [.symbol ')']) := by
    simp [Token.enclosed, Token.signs, Keyword.signs]
  rw [CreateTable.tokens, shape, ofSigns?, List.getLast?_concat, if_pos rfl, List.dropLast_concat,
    elements, parts]
  rfl

/-- The text of a creation is read as the creation. -/
theorem creation?_compile {dialect : Dialect} {create : CreateTable}
    {compiled : CompiledStatement} (filled : create.Filled)
    (compiles : (Statement.createTable create).compile dialect = .ok compiled) :
    compiled.creation? dialect = some (create.reading dialect) := by
  obtain ⟨-, rfl⟩ := Statement.compile_eq_ok.mp compiles
  rw [CompiledStatement.creation?, CompiledStatement.signs?_ofTokens]
  exact ofSigns?_tokens dialect filled

end Creation

end TableMapping
