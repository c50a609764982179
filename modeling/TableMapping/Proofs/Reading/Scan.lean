import TableMapping.Proofs.Reading.Grammar
import TableMapping.Proofs.Request.Written

/-!
# Texts that are sentences

A text is scanned sign by sign for what no sentence has: a list that starts with a comma, has
nothing between two commas or nothing in front of its closing parenthesis, parentheses that do not
go in pairs, and a joined table without a condition. Every sentence passes, and a statement whose
text passes lists its items.
-/

open Computability

namespace TableMapping

/-! ## Scans -/

/-- What must come next in a scan. -/
inductive Scan.Expected
  | anything
  /-- The first sign of an item of a list. -/
  | item
  /-- The name of a joined table. -/
  | table
  /-- What leads in the condition of a joined table. -/
  | on
deriving DecidableEq

/-- How far the signs of a text have been looked at. -/
structure Scan where
  /-- The number of parentheses that are open. -/
  depth : Nat
  expected : Scan.Expected
deriving DecidableEq

namespace Scan

/-- The scan behind a sign where anything may come. -/
def next? (depth : Nat) : Sign → Option Scan
  | .symbol '(' => some ⟨depth + 1, .item⟩
  | .symbol ')' =>
      match depth with
      | 0 => none
      | depth + 1 => some ⟨depth, .anything⟩
  | .symbol ',' => some ⟨depth, .item⟩
  | .keyword "join" => some ⟨depth, .table⟩
  | _ => some ⟨depth, .anything⟩

/-- The scan behind one more sign. -/
def step? (scan : Scan) (sign : Sign) : Option Scan :=
  match scan.expected, sign with
  | .anything, sign => next? scan.depth sign
  | .item, .symbol ',' | .item, .symbol ')' => none
  | .item, sign => next? scan.depth sign
  | .table, .name _ => some ⟨scan.depth, .on⟩
  | .on, .keyword "on" => some ⟨scan.depth, .anything⟩
  | _, _ => none

/-- The scan behind several more signs. -/
def run? (scan : Scan) (signs : List Sign) : Option Scan := signs.foldlM step? scan

/-- A whole text passes if nothing is open or missing at its end. -/
def Accepts (signs : List Sign) : Prop := run? ⟨0, .anything⟩ signs = some ⟨0, .anything⟩

instance (signs : List Sign) : Decidable (Accepts signs) :=
  inferInstanceAs (Decidable (run? ⟨0, .anything⟩ signs = some ⟨0, .anything⟩))

theorem run?_append (scan : Scan) (before after : List Sign) :
    run? scan (before ++ after) = (run? scan before).bind fun behind => run? behind after :=
  List.foldlM_append

theorem run?_cons (scan : Scan) (sign : Sign) (rest : List Sign) :
    run? scan (sign :: rest) = (step? scan sign).bind fun behind => run? behind rest :=
  List.foldlM_cons

/-! ## Phrases that pass -/

/-- The signs pass at every depth and leave nothing open or missing. -/
def Passes (expected : Expected) (signs : List Sign) : Prop :=
  ∀ depth, run? ⟨depth, expected⟩ signs = some ⟨depth, .anything⟩

/-- A phrase passes where anything may come. -/
def Whole (phrase : Language Sign) : Prop := ∀ signs ∈ phrase, Passes .anything signs

/-- A phrase also passes as an item of a list. -/
def Item (phrase : Language Sign) : Prop :=
  ∀ signs ∈ phrase, Passes .anything signs ∧ Passes .item signs

variable {phrase other : Language Sign} {expected : Expected} {before after : List Sign}

theorem Passes.append (passes : Passes expected before) (goes_on : Passes .anything after) :
    Passes expected (before ++ after) := by
  intro depth
  rw [run?_append, passes depth]
  exact goes_on depth

theorem Item.whole (item : Item phrase) : Whole phrase := fun signs member => (item signs member).1

theorem Whole.one : Whole 1 := by
  rintro signs rfl depth
  rfl

theorem Whole.add (whole : Whole phrase) (other_whole : Whole other) : Whole (phrase + other) := by
  rintro signs (member | member)
  · exact whole signs member
  · exact other_whole signs member

theorem Whole.mul (whole : Whole phrase) (other_whole : Whole other) : Whole (phrase * other) := by
  intro signs member
  obtain ⟨before, own, after, other_own, rfl⟩ := Language.mem_mul.mp member
  exact (whole before own).append (other_whole after other_own)

theorem Whole.kstar (whole : Whole phrase) : Whole phrase∗ := by
  intro signs member
  obtain ⟨parts, rfl, own⟩ := Language.mem_kstar.mp member
  clear member
  induction parts with
  | nil => exact fun depth => rfl
  | cons first rest ih =>
      obtain ⟨first_own, rest_own⟩ := List.forall_mem_cons.mp own
      exact (whole first first_own).append (ih rest_own)

theorem Whole.optional (whole : Whole phrase) : Whole (Grammar.optional phrase) :=
  Whole.one.add whole

theorem Item.mul (item : Item phrase) (whole : Whole other) : Item (phrase * other) := by
  intro signs member
  obtain ⟨before, own, after, other_own, rfl⟩ := Language.mem_mul.mp member
  obtain ⟨passes, as_item⟩ := item before own
  exact ⟨passes.append (whole after other_own), as_item.append (whole after other_own)⟩

theorem Item.behindComma (item : Item phrase) :
    Whole (Grammar.sign (.symbol ',') * phrase) := by
  intro signs member depth
  obtain ⟨_, rfl, after, own, rfl⟩ := Language.mem_mul.mp member
  exact (item after own).2 depth

theorem Item.listed (item : Item phrase) : Item (Grammar.listed phrase) :=
  item.mul item.behindComma.kstar

theorem Item.enclosed (item : Item phrase) : Item (Grammar.enclosed phrase) := by
  intro signs member
  obtain ⟨_, opened, _, rfl, rfl⟩ := Language.mem_mul.mp member
  obtain ⟨_, rfl, inner, own, rfl⟩ := Language.mem_mul.mp opened
  have closes (depth : Nat) : run? ⟨depth + 1, .item⟩ (inner ++ [.symbol ')']) =
      some ⟨depth, .anything⟩ := by
    rw [run?_append, (item inner own).2 (depth + 1)]
    rfl
  exact ⟨closes, closes⟩

/-! ### Words -/

/-- A sign that is no parenthesis and no comma, and that does not lead in a joined table. -/
def Plain : Sign → Prop
  | .symbol character => character ∉ ['(', ')', ',']
  | .keyword word => word ≠ "join"
  | _ => True

instance : DecidablePred Plain
  | .symbol character => inferInstanceAs (Decidable (character ∉ ['(', ')', ',']))
  | .keyword word => inferInstanceAs (Decidable (word ≠ "join"))
  | .name _ | .number _ | .value _ => inferInstanceAs (Decidable True)

theorem Plain.next?_eq {sign : Sign} (plain : Plain sign) (depth : Nat) :
    next? depth sign = some ⟨depth, .anything⟩ := by
  unfold next?
  split
  · exact absurd plain (by decide)
  · exact absurd plain (by decide)
  · exact absurd plain (by decide)
  · exact absurd plain (by decide)
  · rfl

theorem Plain.step?_item_eq {sign : Sign} (plain : Plain sign) (depth : Nat) :
    step? ⟨depth, .item⟩ sign = some ⟨depth, .anything⟩ := by
  cases sign with
  | symbol character =>
      have begins : step? ⟨depth, .item⟩ (.symbol character) = next? depth (.symbol character) := by
        unfold step?
        split
        all_goals simp_all [Plain]
      exact begins.trans (plain.next?_eq depth)
  | _ => exact plain.next?_eq depth

theorem passes_of_plain {signs : List Sign} (plain : ∀ sign ∈ signs, Plain sign) :
    Passes .anything signs := by
  intro depth
  induction signs with
  | nil => rfl
  | cons sign rest ih =>
      obtain ⟨own, others⟩ := List.forall_mem_cons.mp plain
      have stepped : step? ⟨depth, .anything⟩ sign = some ⟨depth, .anything⟩ := own.next?_eq depth
      rw [run?_cons, stepped]
      exact ih others

theorem passes_item_of_plain {signs : List Sign} (present : signs ≠ [])
    (plain : ∀ sign ∈ signs, Plain sign) : Passes .anything signs ∧ Passes .item signs := by
  refine ⟨passes_of_plain plain, fun depth => ?_⟩
  obtain ⟨sign, rest, rfl⟩ := List.exists_cons_of_ne_nil present
  obtain ⟨own, others⟩ := List.forall_mem_cons.mp plain
  rw [run?_cons, own.step?_item_eq]
  exact passes_of_plain others depth

theorem item_name : Item Grammar.name := by
  rintro signs ⟨name, rfl⟩
  exact ⟨fun depth => rfl, fun depth => rfl⟩

theorem item_value : Item Grammar.value := by
  rintro signs ⟨value, rfl⟩
  exact ⟨fun depth => rfl, fun depth => rfl⟩

theorem item_word (own : Keyword) (plain : ∀ sign ∈ own.signs, Plain sign) :
    Item (Grammar.word own) := by
  rintro signs rfl
  exact passes_item_of_plain (by cases own <;> exact List.cons_ne_nil _ _) plain

theorem whole_word (own : Keyword) (plain : ∀ sign ∈ own.signs, Plain sign) :
    Whole (Grammar.word own) := (item_word own plain).whole

/-- A word that does not lead in a joined table. -/
def OtherWord : Lexeme → Prop
  | .word letters => String.ofList (letters.map Char.toLower) ≠ "join"
  | _ => False

instance : DecidablePred OtherWord
  | .word letters => inferInstanceAs (Decidable (String.ofList (letters.map Char.toLower) ≠ "join"))
  | .quoted _ | .unclosed _ | .number _ | .mark _ | .symbol _ => inferInstanceAs (Decidable False)

theorem OtherWord.plain {dialect : Dialect} {lexeme : Lexeme} {sign : Sign}
    (other : OtherWord lexeme) (stands : Sign.ofLexeme? dialect lexeme = some sign) :
    Plain sign := by
  cases lexeme with
  | word letters =>
      obtain rfl := Option.some.inj stands
      unfold Sign.ofWord
      split
      · exact other
      · trivial
  | _ => exact other.elim

theorem item_storage (dialect : Dialect) : Item (Grammar.storage dialect) := by
  rintro signs ⟨type, rfl⟩
  have of_words (present : type.signs dialect ≠ [])
      (words : ∀ lexeme ∈ Lexeme.lex type.spelling.toList, OtherWord lexeme) :
      Passes .anything (type.signs dialect) ∧ Passes .item (type.signs dialect) := by
    refine passes_item_of_plain present fun sign member => ?_
    obtain ⟨lexeme, listed, stands⟩ := List.mem_filterMap.mp member
    exact (words lexeme listed).plain stands
  cases type with
  | timeMicrosecond | timeNanosecond =>
      -- The number of digits stands between parentheses.
      constructor <;> intro depth <;> cases dialect <;> rfl
  | _ => exact of_words (List.cons_ne_nil _ _) (by decide)

theorem whole_comparison : Whole Grammar.comparison := by
  rintro signs ⟨operator, rfl⟩
  exact passes_of_plain (by cases operator <;> decide)

theorem whole_sign {sign : Sign} (plain : Plain sign) : Whole (Grammar.sign sign) := by
  rintro signs rfl
  exact passes_of_plain (List.forall_mem_singleton.mpr plain)

/-! ### Conditions -/

theorem item_column : Item Grammar.column :=
  (item_name.mul (whole_sign (by decide))).mul item_name.whole

theorem whole_test : Whole Grammar.test := by
  have presence : Whole (Grammar.word .isNull) := whole_word .isNull (by decide)
  have absence : Whole (Grammar.word .isNotNull) := whole_word .isNotNull (by decide)
  have equality : Whole (Grammar.sign (.symbol '=')) := whole_sign (by decide)
  exact (((whole_comparison.mul item_value.whole).add presence).add absence).add
    (equality.mul item_column.whole)

/-- A condition passes, by its parts. -/
theorem item_condition : Item Grammar.condition := by
  intro signs member
  induction member with
  | atom tests => exact item_column.mul whole_test _ tests
  | node connective _ _ first_ih second_ih =>
      have combines : Passes .anything connective.keyword.signs := by
        intro depth
        cases connective <;> rfl
      have goes_on := combines.append second_ih.1
      exact ⟨first_ih.1.append goes_on, first_ih.2.append goes_on⟩
  | @enclosed inner _ ih =>
      have closes (depth : Nat) : run? ⟨depth + 1, .item⟩ (inner ++ [.symbol ')']) =
          some ⟨depth, .anything⟩ := by
        rw [run?_append, ih.2 (depth + 1)]
        rfl
      exact ⟨closes, closes⟩

/-! ### Statements -/

theorem whole_filter : Whole Grammar.filter :=
  ((whole_word .filter (by decide)).mul item_condition.whole).optional

theorem whole_join : Whole Grammar.join := by
  intro signs member depth
  obtain ⟨_, joined, _, condition, rfl⟩ := Language.mem_mul.mp member
  obtain ⟨kind, is_kind, _, ⟨table, rfl⟩, rfl⟩ := Language.mem_mul.mp joined
  obtain ⟨_, rfl, tests, own, rfl⟩ := Language.mem_mul.mp condition
  have expects_on : run? ⟨depth, .anything⟩ (kind ++ [.name table]) = some ⟨depth, .on⟩ := by
    rcases is_kind with rfl | rfl <;> rfl
  rw [run?_append, expects_on]
  exact (item_condition tests own).1 depth

theorem item_query {columns : Language Sign} (whole : Whole columns) :
    Item (Grammar.query columns) := by
  have selected := ((item_word .select (by decide)).mul whole).mul (whole_word .source (by decide))
  exact ((selected.mul item_name.whole).mul whole_join.kstar).mul whole_filter

theorem whole_changed : Whole Grammar.changed := by
  have one : Whole (Grammar.sign (.number ['1'])) := whole_sign (by decide)
  exact whole_filter.add ((whole_word .filterExists (by decide)).mul
    (item_query one).enclosed.whole)

theorem item_key : Item Grammar.key := by
  have names : Whole (Grammar.enclosed (Grammar.listed Grammar.name)) :=
    item_name.listed.enclosed.whole
  have primary := (whole_word .primaryKey (by decide)).mul names
  have foreign := (whole_word .foreignKey (by decide)).mul names
  have referred := ((whole_word .references (by decide)).mul item_name.whole).mul names
  exact ((item_word .constraint (by decide)).mul item_name.whole).mul
    (primary.add (foreign.mul referred))

theorem whole_creation (dialect : Dialect) : Whole (Grammar.creation dialect) := by
  have definition : Item (Grammar.definition dialect) :=
    (item_name.mul (item_storage dialect).whole).mul (whole_word .notNull (by decide)).optional
  exact ((whole_word .createTable (by decide)).mul item_name.whole).mul
    (definition.listed.mul item_key.behindComma.kstar).enclosed.whole

theorem whole_insertion : Whole Grammar.insertion := by
  have rows := (whole_word .values (by decide)).mul item_value.listed.enclosed.listed.whole
  exact ((whole_word .insertInto (by decide)).mul item_name.whole).mul
    ((whole_word .defaultValues (by decide)).add (item_name.listed.enclosed.whole.mul rows))

theorem whole_update : Whole Grammar.update := by
  have assignment : Item (Grammar.name * Grammar.sign (.symbol '=') * Grammar.value) :=
    (item_name.mul (whole_sign (by decide))).mul item_value.whole
  have table := (whole_word .update (by decide)).mul item_name.whole
  exact ((table.mul (whole_word .set (by decide))).mul assignment.listed.whole).mul whole_changed

theorem whole_removal : Whole Grammar.removal :=
  ((whole_word .deleteFrom (by decide)).mul item_name.whole).mul whole_changed

/-- Every sentence passes. -/
theorem accepts_of_sentence {dialect : Dialect} {signs : List Sign}
    (sentence : signs ∈ Grammar.statement dialect) : Accepts signs :=
  ((((whole_creation dialect).add whole_insertion).add
    (item_query item_column.listed.whole).whole).add whole_update).add whole_removal
      signs sentence 0

/-! ## Statements that pass -/

theorem not_infix_of_accepts {signs bad : List Sign} (accepts : Accepts signs)
    (rejected : ∀ scan, run? scan bad = none) : ¬bad <:+: signs := by
  rintro ⟨before, after, rfl⟩
  rw [Accepts, run?_append, run?_append] at accepts
  obtain ⟨_, passed, -⟩ := Option.bind_eq_some_iff.mp accepts
  obtain ⟨behind, -, again⟩ := Option.bind_eq_some_iff.mp passed
  rw [rejected behind] at again
  cases again

theorem run?_opening_closing (scan : Scan) :
    run? scan [.symbol '(', .symbol ')'] = none := by
  obtain ⟨depth, expected⟩ := scan
  cases expected <;> rfl

theorem run?_opening_comma (scan : Scan) : run? scan [.symbol '(', .symbol ','] = none := by
  obtain ⟨depth, expected⟩ := scan
  cases expected <;> rfl

theorem isInfix_allSigns {dialect : Dialect} {part whole : List Token} (part_of : part <:+: whole) :
    Token.allSigns dialect part <:+: Token.allSigns dialect whole := by
  obtain ⟨before, after, rfl⟩ := part_of
  exact ⟨Token.allSigns dialect before, Token.allSigns dialect after, by simp⟩

/-! ### Keys -/

theorem filled_of_not_infix {constraint : TableConstraint}
    (listed : ¬[Token.opening, .closing] <:+: constraint.tokens) : constraint.Filled := by
  cases constraint with
  | primaryKey name columns =>
      rintro rfl
      exact listed ⟨[.keyword .constraint, .identifier name, .keyword .primaryKey], [], rfl⟩
  | foreignKey name columns table references =>
      constructor
      · rintro rfl
        exact listed ⟨[.keyword .constraint, .identifier name, .keyword .foreignKey],
          [.keyword .references, .identifier table] ++ Token.names references, by simp [
            TableConstraint.tokens, Token.names, Token.enclosed, Token.listing]⟩
      · rintro rfl
        exact listed ⟨[.keyword .constraint, .identifier name, .keyword .foreignKey] ++
          Token.names columns ++ [.keyword .references, .identifier table], [], by simp [
            TableConstraint.tokens, Token.names, Token.enclosed, Token.listing]⟩

/-- A creation that passes has columns, and so does each key. -/
theorem filled_of_accepts {dialect : Dialect} {create : CreateTable}
    (accepts : Accepts (Token.allSigns dialect (create.tokens dialect))) : create.Filled := by
  constructor
  · intro absent
    cases keys : create.constraints with
    | nil =>
        have empty : [Token.opening, .closing] <:+: create.tokens dialect :=
          ⟨[.keyword .createTable, .identifier create.table], [], by
            simp [CreateTable.tokens, absent, keys, Token.enclosed, Token.listing]⟩
        exact not_infix_of_accepts accepts run?_opening_closing (isInfix_allSigns empty)
    | cons first rest =>
        have empty : [Token.opening, .comma] <:+: create.tokens dialect :=
          ⟨[.keyword .createTable, .identifier create.table], first.tokens ++
            rest.flatMap (fun constraint => .comma :: constraint.tokens) ++ [.closing], by
            simp [CreateTable.tokens, absent, keys, Token.enclosed, Token.listing]⟩
        exact not_infix_of_accepts accepts run?_opening_comma (isInfix_allSigns empty)
  · intro constraint member
    refine filled_of_not_infix fun empty => ?_
    obtain ⟨before, after, keys⟩ := List.append_of_mem member
    have part_of : constraint.tokens <:+: create.tokens dialect := by
      refine ⟨.keyword .createTable :: .identifier create.table :: .opening ::
        (Token.listing (create.columns.map (ColumnDefinition.tokens dialect)) ++
          before.flatMap (fun constraint => .comma :: constraint.tokens) ++ [.comma]),
        after.flatMap (fun constraint => .comma :: constraint.tokens) ++ [.closing], ?_⟩
      simp [CreateTable.tokens, keys, Token.enclosed]
    exact not_infix_of_accepts accepts run?_opening_closing
      (isInfix_allSigns (empty.trans part_of))

/-! ### Joins -/

theorem expected_behind_join {scan behind : Scan} {kind : JoinKind} {table : String}
    (passed : run? scan (kind.keyword.signs ++ [.name table]) = some behind) :
    behind.expected = .on := by
  obtain ⟨depth, expected⟩ := scan
  cases kind <;> cases expected <;> cases passed <;> rfl

theorem head?_of_expected_on {scan : Scan} {depth : Nat} {signs : List Sign}
    (expects : scan.expected = .on) (passed : run? scan signs = some ⟨depth, .anything⟩) :
    signs.head? = some (.keyword "on") := by
  obtain ⟨own, expected⟩ := scan
  obtain rfl : expected = .on := expects
  cases signs with
  | nil => cases passed
  | cons sign rest =>
      rw [run?_cons] at passed
      obtain ⟨behind, stepped, -⟩ := Option.bind_eq_some_iff.mp passed
      unfold step? at stepped
      split at stepped <;> simp_all

theorem head?_joins_ne_on {dialect : Dialect} (joins : List Join) {rest : List Sign}
    (follows : rest.head? ≠ some (.keyword "on")) :
    (Token.allSigns dialect (joins.flatMap Join.tokens) ++ rest).head? ≠ some (.keyword "on") := by
  cases joins with
  | nil => exact follows
  | cons first others =>
      obtain ⟨kind, table, on⟩ := first
      intro same
      cases kind with
      | inner => exact absurd (Sign.keyword.inj (Option.some.inj same)) (by decide)
      | leftOuter => exact absurd (Sign.keyword.inj (Option.some.inj same)) (by decide)

theorem allFilled_of_run? {dialect : Dialect} {joins : List Join} {rest : List Sign}
    (follows : rest.head? ≠ some (.keyword "on")) {scan : Scan} {depth : Nat}
    (passed : run? scan (Token.allSigns dialect (joins.flatMap Join.tokens) ++ rest) =
      some ⟨depth, .anything⟩) : Join.AllFilled joins := by
  induction joins generalizing scan with
  | nil => exact List.forall_mem_nil _
  | cons first others ih =>
      rw [List.flatMap_cons, Token.allSigns_append, List.append_assoc, run?_append] at passed
      obtain ⟨behind, own, later⟩ := Option.bind_eq_some_iff.mp passed
      refine List.forall_mem_cons.mpr ⟨fun absent => ?_, ih later⟩
      have bare : Token.allSigns dialect first.tokens =
          first.kind.keyword.signs ++ [.name first.table] := by
        simp [Join.tokens, Join.condition?, absent, Condition.ofPairs?, Token.signs]
      rw [bare] at own
      exact head?_joins_ne_on others follows (head?_of_expected_on (expected_behind_join own) later)

theorem allFilled_of_query {dialect : Dialect} {joins : List Join} {filter : Option Condition}
    {before after : List Sign} (closes : after.head? ≠ some (.keyword "on")) {scan : Scan}
    {depth : Nat} (passed : run? scan (before ++ (Token.allSigns dialect
      (joins.flatMap Join.tokens ++ Condition.filterTokens filter) ++ after)) =
        some ⟨depth, .anything⟩) : Join.AllFilled joins := by
  rw [run?_append] at passed
  obtain ⟨behind, -, later⟩ := Option.bind_eq_some_iff.mp passed
  rw [Token.allSigns_append, List.append_assoc] at later
  refine allFilled_of_run? ?_ later
  cases filter with
  | none => exact closes
  | some condition =>
      intro same
      exact absurd (Sign.keyword.inj (Option.some.inj same)) (by decide)

theorem allFilled_tail_of_accepts {dialect : Dialect} {joins : List Join}
    {filter : Option Condition} {before : List Sign}
    (accepts : Accepts (before ++ Token.allSigns dialect (Join.correlatedTokens filter joins))) :
    Join.AllFilled joins.tail := by
  cases joins with
  | nil => exact List.forall_mem_nil _
  | cons first rest =>
      have shape : before ++ Token.allSigns dialect
          (Join.correlatedTokens filter (first :: rest)) =
          (before ++ [.keyword "where", .keyword "exists", .symbol '(', .keyword "select",
            .number ['1'], .keyword "from", .name first.table]) ++
            (Token.allSigns dialect (rest.flatMap Join.tokens ++
              Condition.filterTokens (Condition.conjunction? first.condition? filter)) ++
                [.symbol ')']) := by
        simp [Join.correlatedTokens, Token.enclosed, Token.signs, Keyword.signs]
      rw [Accepts, shape] at accepts
      exact allFilled_of_query (by decide) accepts

end Scan

/-- A statement whose text passes lists its items. -/
theorem Statement.listsItems_of_accepts {dialect : Dialect} {statement : Statement}
    (accepts : Scan.Accepts (Token.allSigns dialect (statement.tokens dialect))) :
    statement.ListsItems := by
  cases statement with
  | createTable tree => exact Scan.filled_of_accepts accepts
  | insert tree => trivial
  | select tree =>
      have shape : Token.allSigns dialect tree.tokens =
          (.keyword "select" :: (Token.allSigns dialect
            (Token.listing (tree.columns.map ColumnRef.tokens)) ++
              [.keyword "from", .name tree.source])) ++
            (Token.allSigns dialect (tree.joins.flatMap Join.tokens ++
              Condition.filterTokens tree.filter) ++ []) := by
        simp [Select.tokens, Token.signs, Keyword.signs]
      rw [Scan.Accepts, Statement.tokens, shape] at accepts
      exact Scan.allFilled_of_query (by decide) accepts
  | update tree =>
      rw [Statement.tokens, Update.tokens, Token.allSigns_append] at accepts
      exact Scan.allFilled_tail_of_accepts accepts
  | delete tree =>
      rw [Statement.tokens, Delete.tokens, Token.allSigns_append] at accepts
      exact Scan.allFilled_tail_of_accepts accepts

theorem Statement.Filled.listsItems {statement : Statement} (filled : statement.Filled) :
    statement.ListsItems := by
  cases statement with
  | createTable tree => exact filled
  | insert tree => trivial
  | select tree => exact filled.2
  | update tree => exact fun join member => filled.2 join (List.mem_of_mem_tail member)
  | delete tree => exact fun join member => filled join (List.mem_of_mem_tail member)

/-! ## Sentences -/

/-- The text of a statement that is written is a sentence just if the tree lists the items that the
text needs. Otherwise, it does not even pass a scan for lists without items, parentheses that do not
go in pairs and joined tables without conditions. -/
theorem text_is_sentence_iff_lists_items {dialect : Dialect} {statement : Statement}
    {compiled : CompiledStatement} (writes : statement.write dialect = .ok compiled) :
    ∃ signs, compiled.signs? dialect = some signs ∧
      (signs ∈ Grammar.statement dialect ↔ statement.ListsItems) ∧
      (Scan.Accepts signs ↔ statement.ListsItems) := by
  obtain ⟨sound, rfl⟩ := Statement.compile_eq_ok.mp (mapError_eq_ok.mp writes)
  have writable := Statement.fault?_eq_none_iff_writable.mp sound
  have sentence (lists : statement.ListsItems) := lists.sentence writable
  refine ⟨_, CompiledStatement.signs?_ofTokens dialect _, ⟨fun own => ?_, sentence⟩,
    Statement.listsItems_of_accepts, fun lists => Scan.accepts_of_sentence (sentence lists)⟩
  exact Statement.listsItems_of_accepts (Scan.accepts_of_sentence own)

namespace Statement

/-- The statement is written, but its text is no sentence, and does not even pass a scan. -/
def WritesNoSentence (dialect : Dialect) (statement : Statement) : Prop :=
  ∃ compiled signs, statement.write dialect = .ok compiled ∧
    compiled.signs? dialect = some signs ∧ signs ∉ Grammar.statement dialect ∧
    ¬Scan.Accepts signs

theorem writesNoSentence_of_fault?_eq_none {dialect : Dialect} {statement : Statement}
    (sound : statement.fault? dialect = none) (lacks : ¬statement.ListsItems) :
    WritesNoSentence dialect statement := by
  refine ⟨_, _, mapError_eq_ok.mpr (compile_eq_ok.mpr ⟨sound, rfl⟩),
    CompiledStatement.signs?_ofTokens dialect _, fun sentence => ?_,
    fun accepts => lacks (listsItems_of_accepts accepts)⟩
  exact lacks (listsItems_of_accepts (Scan.accepts_of_sentence sentence))

/-- Tables without columns, without and with a key, a key without columns, and a joined table
without a condition are not refused. -/
theorem unlisted_written :
    WritesNoSentence .sqlite (.createTable ⟨"t", [], []⟩) ∧
      WritesNoSentence .sqlite (.createTable ⟨"t", [], [.primaryKey "k" ["c"]]⟩) ∧
      WritesNoSentence .sqlite
        (.createTable ⟨"t", [⟨"c", .integer, false⟩], [.primaryKey "k" []]⟩) ∧
      WritesNoSentence .sqlite (.select ⟨[⟨"t", "c"⟩], "t", [⟨.inner, "u", []⟩], none⟩) := by
  refine ⟨?_, ?_, ?_, ?_⟩ <;> refine writesNoSentence_of_fault?_eq_none rfl fun lists => ?_
  · exact lists.columns_ne_nil rfl
  · exact lists.columns_ne_nil rfl
  · exact lists.constraints_filled (.primaryKey "k" []) List.mem_cons_self rfl
  · exact lists ⟨.inner, "u", []⟩ List.mem_cons_self rfl

/-- A removal through two tables, of which only the second has a condition. -/
def removalThroughTables : Statement :=
  .delete ⟨"t", [⟨.inner, "u", []⟩, ⟨.inner, "v", [(⟨"u", "c"⟩, ⟨"v", "c"⟩)]⟩], none⟩

/-- The first table of the removal is not joined in its text, which is a sentence. -/
theorem removal_is_sentence :
    ∃ compiled signs, removalThroughTables.write .h2 = .ok compiled ∧
      compiled.signs? .h2 = some signs ∧ signs ∈ Grammar.statement .h2 ∧
      Scan.Accepts signs := by
  obtain ⟨compiled, writes⟩ : ∃ compiled, removalThroughTables.write .h2 = .ok compiled := ⟨_, rfl⟩
  have lists : removalThroughTables.ListsItems := by
    intro join member
    obtain rfl := List.mem_singleton.mp member
    exact List.cons_ne_nil _ _
  obtain ⟨signs, read, sentence_iff, accepts_iff⟩ := text_is_sentence_iff_lists_items writes
  exact ⟨compiled, signs, writes, read, sentence_iff.mpr lists, accepts_iff.mpr lists⟩

end Statement

/-- What requests against a built registry have written is a sentence. -/
theorem Registry.Built.sentence_of_writes {registry : Registry} (built : registry.Built)
    {statement : Statement} (asked : registry.Writes statement) {compiled : CompiledStatement}
    (compiles : statement.compile registry.dialect = .ok compiled) :
    ∃ signs, compiled.signs? registry.dialect = some signs ∧
      signs ∈ Grammar.statement registry.dialect := by
  obtain ⟨sound, rfl⟩ := Statement.compile_eq_ok.mp compiles
  have lists := (built.valid.sound_of_writes asked).1.listsItems
  exact ⟨_, CompiledStatement.signs?_ofTokens registry.dialect _,
    lists.sentence (Statement.fault?_eq_none_iff_writable.mp sound)⟩

end TableMapping
