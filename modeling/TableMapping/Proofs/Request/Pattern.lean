import Mathlib.Data.List.Infix
import TableMapping.Proofs.TextStorage

/-!
# Predicates that match patterns

In a pattern, a percent sign stands for any text and an underscore for any one character, and every
other character stands for itself. The fragment of a predicate is part of such a pattern as it is.
So the predicate is true of the texts that have a piece in the right place that matches the
fragment, and these are the texts with the fragment itself there only if the fragment has neither a
percent sign nor an underscore.
-/

namespace TableMapping

/-! ## Patterns -/

namespace Pattern

/-- The pattern admits the text: a percent sign stands for any text, an underscore for any one
character, and every other character for itself. -/
def admits : List Char → List Char → Bool
  | [], text => text.isEmpty
  | next :: pattern, text =>
      if next = '%' then
        text.tails.any (admits pattern)
      else
        match text with
        | [] => false
        | first :: rest => (next = '_' || next = first) && admits pattern rest

/-- No character of the pattern stands for others. -/
def Plain (pattern : List Char) : Prop := '%' ∉ pattern ∧ '_' ∉ pattern

/-- A shortest text that the pattern admits, without percent signs and underscores. -/
def sample : List Char → List Char
  | [] => []
  | next :: pattern =>
      if next = '%' then sample pattern
      else (if next = '_' then 'a' else next) :: sample pattern

section Admits

variable {next first : Char} {pattern text rest : List Char}

theorem admits_nil : admits [] text = true ↔ text = [] := List.isEmpty_iff

theorem admits_percent :
    admits ('%' :: pattern) text = true ↔ ∃ rest, rest <:+ text ∧ admits pattern rest = true := by
  rw [admits.eq_def]
  simp only [↓reduceIte, List.any_eq_true, List.mem_tails]

theorem admits_cons_nil (single : next ≠ '%') : admits (next :: pattern) [] = false := by
  rw [admits, if_neg single]

theorem admits_cons_cons (single : next ≠ '%') :
    admits (next :: pattern) (first :: rest) = true ↔
      (next = '_' ∨ next = first) ∧ admits pattern rest = true := by
  rw [admits, if_neg single]
  simp

theorem admits_any : admits ['%'] text = true :=
  admits_percent.mpr ⟨[], List.nil_suffix, rfl⟩

/-- Of a text that two patterns admit one after the other, the first admits what stands in front and
the second what stands behind. -/
theorem admits_append {before after : List Char} :
    admits (before ++ after) text = true ↔
      ∃ front back, text = front ++ back ∧ admits before front = true ∧
        admits after back = true := by
  induction before generalizing text with
  | nil => simp [admits_nil]
  | cons next before ih =>
      rw [List.cons_append]
      by_cases percent : next = '%'
      · subst percent
        -- What the percent sign skips goes in front of what the rest of the pattern admits.
        simp only [admits_percent, ih]
        constructor
        · rintro ⟨_, ⟨skipped, rfl⟩, front, back, rfl, admitted, later⟩
          exact ⟨skipped ++ front, back, (List.append_assoc _ _ _).symm,
            ⟨front, List.suffix_append _ _, admitted⟩, later⟩
        · rintro ⟨_, back, rfl, ⟨front, ⟨skipped, rfl⟩, admitted⟩, later⟩
          exact ⟨front ++ back, ⟨skipped, (List.append_assoc _ _ _).symm⟩, front, back, rfl,
            admitted, later⟩
      · cases text with
        | nil =>
            rw [admits_cons_nil percent]
            refine iff_of_false Bool.false_ne_true ?_
            rintro ⟨front, back, split, admitted, -⟩
            obtain ⟨rfl, -⟩ := List.append_eq_nil_iff.mp split.symm
            rw [admits_cons_nil percent] at admitted
            cases admitted
        | cons first rest =>
            rw [admits_cons_cons percent, ih]
            constructor
            · rintro ⟨fits, front, back, rfl, admitted, later⟩
              exact ⟨first :: front, back, rfl, (admits_cons_cons percent).mpr ⟨fits, admitted⟩,
                later⟩
            · rintro ⟨front, back, split, admitted, later⟩
              cases front with
              | nil =>
                  rw [admits_cons_nil percent] at admitted
                  cases admitted
              | cons other front =>
                  obtain ⟨rfl, rfl⟩ := List.cons.inj split
                  obtain ⟨fits, admitted⟩ := (admits_cons_cons percent).mp admitted
                  exact ⟨fits, front, back, rfl, admitted, later⟩

/-- The first pattern admits the name up to the comma, and the percent sign the rest. -/
example : admits ("D_e,".toList ++ ['%']) "Doe, John".toList = true := by decide

theorem admits_concat_percent :
    admits (pattern ++ ['%']) text = true ↔
      ∃ piece, piece <+: text ∧ admits pattern piece = true := by
  rw [admits_append]
  constructor
  · rintro ⟨piece, rest, rfl, admitted, -⟩
    exact ⟨piece, List.prefix_append _ _, admitted⟩
  · rintro ⟨piece, ⟨rest, rfl⟩, admitted⟩
    exact ⟨piece, rest, rfl, admitted, admits_any⟩

theorem admits_percent_concat_percent :
    admits ('%' :: (pattern ++ ['%'])) text = true ↔
      ∃ piece, piece <:+: text ∧ admits pattern piece = true := by
  simp only [admits_percent, admits_concat_percent, List.infix_iff_prefix_suffix]
  constructor
  · rintro ⟨rest, behind, piece, ahead, admitted⟩
    exact ⟨piece, ⟨rest, ahead, behind⟩, admitted⟩
  · rintro ⟨piece, ⟨rest, ahead, behind⟩, admitted⟩
    exact ⟨rest, behind, piece, ahead, admitted⟩

/-! ## Patterns that stand for themselves -/

theorem plain_cons : Plain (next :: pattern) ↔ next ≠ '%' ∧ next ≠ '_' ∧ Plain pattern := by
  simp only [Plain, List.mem_cons, not_or, ne_comm (a := next)]
  tauto

theorem admits_of_plain (plain : Plain pattern) : admits pattern text = true ↔ text = pattern := by
  induction pattern generalizing text with
  | nil => exact admits_nil
  | cons next pattern ih =>
      obtain ⟨single, fixed, plain⟩ := plain_cons.mp plain
      cases text with
      | nil => simp [admits_cons_nil single]
      | cons first rest =>
          rw [admits_cons_cons single, ih plain, List.cons.injEq, or_iff_right fixed, eq_comm]

theorem admits_sample (pattern : List Char) : admits pattern (sample pattern) = true := by
  induction pattern with
  | nil => rfl
  | cons next pattern ih =>
      by_cases percent : next = '%'
      · subst percent
        exact admits_percent.mpr ⟨_, List.suffix_rfl, ih⟩
      · rw [sample, if_neg percent, admits_cons_cons percent]
        refine ⟨?_, ih⟩
        split
        · exact .inl ‹_›
        · exact .inr rfl

theorem plain_sample (pattern : List Char) : Plain (sample pattern) := by
  induction pattern with
  | nil => exact ⟨List.not_mem_nil, List.not_mem_nil⟩
  | cons next pattern ih =>
      by_cases percent : next = '%'
      · rwa [sample, if_pos percent]
      · rw [sample, if_neg percent, plain_cons]
        split
        · exact ⟨by decide, by decide, ih⟩
        · exact ⟨percent, ‹_›, ih⟩

theorem length_sample_le (pattern : List Char) : (sample pattern).length ≤ pattern.length := by
  induction pattern with
  | nil => exact Nat.le_refl 0
  | cons next pattern ih =>
      rw [sample]
      split <;> simp only [List.length_cons] <;> omega

theorem plain_of_infix_sample (occurs : pattern <:+: sample pattern) : Plain pattern := by
  have same : pattern = sample pattern := occurs.eq_of_length_le (length_sample_le pattern)
  rw [same]
  exact plain_sample pattern

/-- The texts with a piece that a pattern admits, in some place, are those with the pattern itself
in that place just if the pattern is plain. -/
theorem pieces_admitted_iff_plain {within : List Char → List Char → Prop}
    (whole : ∀ text, within text text)
    (infixes : ∀ piece text, within piece text → piece <:+: text) :
    (∀ text, (∃ piece, within piece text ∧ admits pattern piece = true) ↔ within pattern text) ↔
      Plain pattern := by
  constructor
  · intro exact
    have occurs : within pattern (sample pattern) :=
      (exact (sample pattern)).mp ⟨_, whole _, admits_sample pattern⟩
    exact plain_of_infix_sample (infixes _ _ occurs)
  · intro plain text
    simp only [admits_of_plain plain, exists_eq_right]

end Admits

/-- Whether a text matches a pattern, which is unknown if one of the values is no text. -/
def matching : SqlValue → SqlValue → Truth
  | .text text, .text pattern => .ofBool (admits pattern.toList text.toList)
  | _, _ => .unknown

end Pattern

/-! ## Predicates -/

namespace Scope

/-- The predicate holds of rows: the condition that it stands for, with its values in the form in
which the database takes them, is true of the rows. -/
def Holds (scope : Scope) (dialect : Dialect) (predicate : Predicate)
    (combination : Combination) : Prop :=
  ∃ condition, scope.condition predicate = .ok condition ∧
    (condition.bound dialect).eval
      (Atom.truth (Test.byOrder Pattern.matching) combination) = .true

/-- Of the rows with a text in the column, the predicate holds of those with one of the texts. -/
def HoldsOfTexts (scope : Scope) (dialect : Dialect) (predicate : Predicate)
    (reference : ColumnRef) (texts : List Char → Prop) : Prop :=
  ∀ (combination : Combination) (text : String), combination.value reference = .text text →
    (scope.Holds dialect predicate combination ↔ texts text.toList)

variable {scope : Scope} {dialect : Dialect} {predicate : Predicate} {key : PropertyKey}
  {reference : ColumnRef} {texts others : List Char → Prop} {pattern fragment : String}

theorem HoldsOfTexts.iff_forall_iff (holds : scope.HoldsOfTexts dialect predicate reference texts) :
    scope.HoldsOfTexts dialect predicate reference others ↔ ∀ text, texts text ↔ others text := by
  constructor
  · intro also text
    have stored : Combination.value [(reference.table, fun _ => .text (String.ofList text))]
        reference = .text (String.ofList text) := by
      simp [Combination.value]
    simpa using (holds _ _ stored).symm.trans (also _ _ stored)
  · intro same combination text stored
    exact (holds combination text stored).trans (same _)

theorem holdsOfTexts_like (named : scope.reference key = .ok reference) :
    scope.HoldsOfTexts dialect (Predicate.like key pattern) reference fun text =>
      Pattern.admits pattern.toList text = true := by
  intro combination text stored
  have resolved : scope.condition (Predicate.like key pattern) =
      .ok (.atom (.test (.compare reference .like (.text pattern)))) := by
    simp only [condition, Predicate.like, Predicate.compare, Formula.traverse, atom, named]
    rfl
  have kept : dialect.bind (.text pattern) = .text pattern := by
    simp [Dialect.bind, SqlValue.textForm]
  have truth :
      (Condition.bound dialect (.atom (.test (.compare reference .like (.text pattern))))).eval
        (Atom.truth (Test.byOrder Pattern.matching) combination) =
          .ofBool (Pattern.admits pattern.toList text.toList) := by
    simp only [Condition.bound, Formula.map, Formula.eval, Atom.bound, kept, Atom.truth,
      Test.column, stored, Test.byOrder]
    rfl
  simp only [Holds, resolved, Except.ok.injEq, exists_eq_left', truth]
  cases Pattern.admits pattern.toList text.toList <;> decide

theorem holdsOfTexts_contains (named : scope.reference key = .ok reference) :
    scope.HoldsOfTexts dialect (Predicate.contains key fragment) reference fun text =>
      ∃ piece, piece <:+: text ∧ Pattern.admits fragment.toList piece = true := by
  intro combination text stored
  rw [Predicate.contains, holdsOfTexts_like named _ _ stored, String.toList_append,
    String.toList_append]
  exact Pattern.admits_percent_concat_percent

theorem holdsOfTexts_startsWith (named : scope.reference key = .ok reference) :
    scope.HoldsOfTexts dialect (Predicate.startsWith key fragment) reference fun text =>
      ∃ piece, piece <+: text ∧ Pattern.admits fragment.toList piece = true := by
  intro combination text stored
  rw [Predicate.startsWith, holdsOfTexts_like named _ _ stored, String.toList_append]
  exact Pattern.admits_concat_percent

theorem holdsOfTexts_endsWith (named : scope.reference key = .ok reference) :
    scope.HoldsOfTexts dialect (Predicate.endsWith key fragment) reference fun text =>
      ∃ piece, piece <:+ text ∧ Pattern.admits fragment.toList piece = true := by
  intro combination text stored
  rw [Predicate.endsWith, holdsOfTexts_like named _ _ stored, String.toList_append]
  exact Pattern.admits_percent

end Scope

/-! ## The theorem -/

/-- The predicates for fragments hold of the texts with a piece in the right place that the fragment
admits as a pattern. These are the texts with the fragment itself there just if it is plain. -/
theorem fragments_match_as_patterns (dialect : Dialect) {scope : Scope} {key : PropertyKey}
    {reference : ColumnRef} (named : scope.reference key = .ok reference) (fragment : String) :
    (scope.HoldsOfTexts dialect (Predicate.contains key fragment) reference fun text =>
      ∃ piece, piece <:+: text ∧ Pattern.admits fragment.toList piece = true) ∧
    (scope.HoldsOfTexts dialect (Predicate.startsWith key fragment) reference fun text =>
      ∃ piece, piece <+: text ∧ Pattern.admits fragment.toList piece = true) ∧
    (scope.HoldsOfTexts dialect (Predicate.endsWith key fragment) reference fun text =>
      ∃ piece, piece <:+ text ∧ Pattern.admits fragment.toList piece = true) ∧
    (scope.HoldsOfTexts dialect (Predicate.contains key fragment) reference
        (fragment.toList <:+: ·) ↔ Pattern.Plain fragment.toList) ∧
    (scope.HoldsOfTexts dialect (Predicate.startsWith key fragment) reference
        (fragment.toList <+: ·) ↔ Pattern.Plain fragment.toList) ∧
    (scope.HoldsOfTexts dialect (Predicate.endsWith key fragment) reference
        (fragment.toList <:+ ·) ↔ Pattern.Plain fragment.toList) := by
  refine ⟨Scope.holdsOfTexts_contains named, Scope.holdsOfTexts_startsWith named,
    Scope.holdsOfTexts_endsWith named, ?_, ?_, ?_⟩
  · exact (Scope.holdsOfTexts_contains named).iff_forall_iff.trans
      (Pattern.pieces_admitted_iff_plain (fun _ => List.infix_rfl) fun _ _ => id)
  · exact (Scope.holdsOfTexts_startsWith named).iff_forall_iff.trans
      (Pattern.pieces_admitted_iff_plain (fun _ => List.prefix_rfl) fun _ _ =>
        List.IsPrefix.isInfix)
  · exact (Scope.holdsOfTexts_endsWith named).iff_forall_iff.trans
      (Pattern.pieces_admitted_iff_plain (fun _ => List.suffix_rfl) fun _ _ =>
        List.IsSuffix.isInfix)

namespace Staff

/-- The users, as a scope. -/
def usersOnly : Scope := ⟨users, []⟩

/-- A user by last name. -/
def userNamed (lastname : String) : Combination :=
  [("users", fun column => if column = "lname" then .text lastname else .null)]

/-- A plain fragment is found in the names that it is a piece of, at their beginning and at their
end, and not in other ones. -/
theorem plain_fragment_found_in_names :
    Scope.ofSource (registry .sqlite) (Source.all user) = .ok usersOnly ∧
    usersOnly.Holds .sqlite (Predicate.contains ⟨user, "lastname"⟩ "oe") (userNamed "Doe") ∧
    ¬ usersOnly.Holds .sqlite (Predicate.startsWith ⟨user, "lastname"⟩ "oe") (userNamed "Doe") ∧
    usersOnly.Holds .sqlite (Predicate.endsWith ⟨user, "lastname"⟩ "oe") (userNamed "Doe") := by
  have named : usersOnly.reference ⟨user, "lastname"⟩ = .ok ⟨"users", "lname"⟩ := rfl
  have stored : (userNamed "Doe").value ⟨"users", "lname"⟩ = .text "Doe" := rfl
  have plain : Pattern.Plain "oe".toList := ⟨by decide, by decide⟩
  obtain ⟨-, -, -, contained, ahead, behind⟩ := fragments_match_as_patterns .sqlite named "oe"
  refine ⟨rfl, ?_, ?_, ?_⟩
  · rw [contained.mpr plain _ _ stored]
    decide
  · rw [ahead.mpr plain _ _ stored]
    decide
  · rw [behind.mpr plain _ _ stored]
    decide

/-- An underscore is found in a name without underscores, anywhere, at its beginning and at its
end. -/
theorem underscore_found_in_plain_name :
    Scope.ofSource (registry .sqlite) (Source.all user) = .ok usersOnly ∧
    ¬ "_".toList <:+: "Doe".toList ∧
    (∃ combination : Combination, combination.value ⟨"users", "lname"⟩ = .text "Doe" ∧
      usersOnly.Holds .sqlite (Predicate.contains ⟨user, "lastname"⟩ "_") combination ∧
      usersOnly.Holds .sqlite (Predicate.startsWith ⟨user, "lastname"⟩ "_") combination ∧
      usersOnly.Holds .sqlite (Predicate.endsWith ⟨user, "lastname"⟩ "_") combination) :=
  ⟨rfl, by decide, userNamed "Doe", rfl, ⟨_, rfl, rfl⟩, ⟨_, rfl, rfl⟩, ⟨_, rfl, rfl⟩⟩

end Staff

end TableMapping
