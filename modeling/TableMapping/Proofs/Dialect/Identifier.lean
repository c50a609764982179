import Mathlib.Logic.Function.Basic
import TableMapping.Proofs.Reading.Lexeme

/-!
# Identifiers that a database takes for the same

Different names are written as different identifiers. A database that ignores the case of ASCII
letters in bare identifiers still takes two of them for the same one: exactly if their names are
written bare and differ in nothing but that case. Quotes keep a name apart from every other one.
-/

namespace TableMapping

/-! ## Letters in lower case -/

/-- The text with its ASCII letters in lower case. -/
def folded (text : List Char) : List Char := text.map Char.toLower

theorem toNat_toLower (character : Char) :
    character.toLower.toNat =
      if 65 ≤ character.toNat ∧ character.toNat ≤ 90 then character.toNat + 32
      else character.toNat := by
  unfold Char.toLower
  split
  · rename_i upper
    have low : 65 ≤ character.toNat := upper.1
    have high : character.toNat ≤ 90 := upper.2
    have sum : (character.val + ('a'.val - 'A'.val)).toNat = character.toNat + 32 := by
      rw [UInt32.toNat_add]
      change (character.toNat + 32) % 2 ^ 32 = _
      omega
    rw [if_pos ⟨low, high⟩]
    exact sum
  · rename_i other
    exact (if_neg fun upper => other upper).symm

theorem isAlpha_iff {character : Char} :
    character.isAlpha = true ↔
      65 ≤ character.toNat ∧ character.toNat ≤ 90 ∨
        97 ≤ character.toNat ∧ character.toNat ≤ 122 := by
  have spelled : character.isAlpha =
      (decide ('A'.val ≤ character.val ∧ character.val ≤ 'Z'.val) ||
        (decide ('a'.val ≤ character.val) && decide (character.val ≤ 'z'.val))) := rfl
  rw [spelled]
  simp only [Bool.or_eq_true, Bool.and_eq_true, decide_eq_true_eq]
  exact Iff.rfl

theorem isDigit_iff {character : Char} :
    character.isDigit = true ↔ 48 ≤ character.toNat ∧ character.toNat ≤ 57 := by
  simp only [Char.isDigit, Bool.and_eq_true, decide_eq_true_eq]
  exact Iff.rfl

theorem eq_underscore_iff {character : Char} : character = '_' ↔ character.toNat = 95 := by
  rw [← Char.toNat_inj]
  rfl

namespace Dialect

theorem startsWord_toLower (character : Char) :
    startsWord character.toLower = startsWord character := by
  have number := toNat_toLower character
  rw [Bool.eq_iff_iff]
  simp only [startsWord, Bool.or_eq_true, decide_eq_true_eq, isAlpha_iff, eq_underscore_iff,
    number]
  split <;> omega

theorem continuesWord_toLower (character : Char) :
    continuesWord character.toLower = continuesWord character := by
  have number := toNat_toLower character
  rw [Bool.eq_iff_iff]
  simp only [continuesWord, Char.isAlphanum, Bool.or_eq_true, decide_eq_true_eq, isAlpha_iff,
    isDigit_iff, eq_underscore_iff, number]
  split <;> omega

theorem isWord_folded (text : List Char) : isWord (folded text) = isWord text := by
  cases text with
  | nil => rfl
  | cons first rest =>
      have continues : continuesWord ∘ Char.toLower = continuesWord :=
        funext continuesWord_toLower
      change (startsWord first.toLower && (rest.map Char.toLower).all continuesWord) =
        (startsWord first && rest.all continuesWord)
      rw [startsWord_toLower, List.all_map, continues]

/-! ## Bare and quoted identifiers -/

/-- The dialect writes the name as it is, without quotes. -/
def WritesBare (dialect : Dialect) (name : List Char) : Prop :=
  isWord name = true ∧ dialect.isReserved name = false

instance (dialect : Dialect) (name : List Char) : Decidable (dialect.WritesBare name) :=
  inferInstanceAs (Decidable (_ ∧ _))

variable {dialect : Dialect} {name other : List Char}

theorem identifier_of_bare (bare : dialect.WritesBare name) : dialect.identifier name = name := by
  simp [identifier, bare.1, bare.2]

theorem identifier_of_not_bare (quoted : ¬dialect.WritesBare name) :
    dialect.identifier name = Quoted.enclose '"' name := by
  refine if_neg fun bare => quoted ?_
  simpa [WritesBare] using bare

theorem isWord_identifier_iff :
    isWord (dialect.identifier name) = true ↔ dialect.WritesBare name := by
  by_cases bare : dialect.WritesBare name
  · rw [identifier_of_bare bare]
    exact iff_of_true bare.1 bare
  · rw [identifier_of_not_bare bare]
    refine iff_of_false ?_ bare
    have mark : startsWord '"' = false := by decide
    simp [Quoted.enclose, isWord, mark]

theorem writesBare_congr (alike : folded name = folded other) :
    dialect.WritesBare name ↔ dialect.WritesBare other := by
  have words : isWord name = isWord other := by
    rw [← isWord_folded name, alike, isWord_folded other]
  have reservations : dialect.isReserved name = dialect.isReserved other :=
    congrArg (fun lower => dialect.reserved.contains (String.ofList lower)) alike
  rw [WritesBare, WritesBare, words, reservations]

theorem identifierLexeme_injective (dialect : Dialect) :
    Function.Injective dialect.identifierLexeme := by
  intro name other same
  unfold identifierLexeme at same
  split at same <;> split at same
  · exact Lexeme.word.inj same
  · cases same
  · cases same
  · exact Lexeme.quoted.inj same

/-- Different names are written as different identifiers. -/
theorem identifier_injective (dialect : Dialect) : Function.Injective dialect.identifier := by
  intro name other same
  have lexeme := (dialect.run_identifier name).2.1
  rw [same, (dialect.run_identifier other).2.1] at lexeme
  exact (dialect.identifierLexeme_injective (List.cons.inj lexeme).1).symm

end Dialect

/-! ## Identifiers that only differ in case -/

/-- A database that ignores the case of ASCII letters in bare identifiers takes the written
identifiers for the same one. -/
def SameIdentifier (first second : List Char) : Prop :=
  first = second ∨
    Dialect.isWord first = true ∧ Dialect.isWord second = true ∧ folded first = folded second

instance (first second : List Char) : Decidable (SameIdentifier first second) :=
  inferInstanceAs (Decidable (_ ∨ _))

namespace Dialect

/-- The names are written bare and differ at most in the case of ASCII letters. -/
def Confuses (dialect : Dialect) (name other : String) : Prop :=
  dialect.WritesBare name.toList ∧ folded name.toList = folded other.toList

instance (dialect : Dialect) (name other : String) : Decidable (dialect.Confuses name other) :=
  inferInstanceAs (Decidable (_ ∧ _))

/-- Identifiers of different names are taken for the same one exactly if the names are written bare
and differ in the case of ASCII letters only. -/
theorem sameIdentifier_iff {dialect : Dialect} {name other : String} (different : name ≠ other) :
    SameIdentifier (dialect.identifier name.toList) (dialect.identifier other.toList) ↔
      dialect.Confuses name other := by
  have texts : dialect.identifier name.toList ≠ dialect.identifier other.toList :=
    fun same => different (String.toList_injective (dialect.identifier_injective same))
  simp only [SameIdentifier, texts, false_or, isWord_identifier_iff, Confuses]
  constructor
  · rintro ⟨bare, other_bare, alike⟩
    rw [identifier_of_bare bare, identifier_of_bare other_bare] at alike
    exact ⟨bare, alike⟩
  · rintro ⟨bare, alike⟩
    have other_bare := (writesBare_congr alike).mp bare
    rw [identifier_of_bare bare, identifier_of_bare other_bare]
    exact ⟨bare, other_bare, alike⟩

end Dialect

end TableMapping
