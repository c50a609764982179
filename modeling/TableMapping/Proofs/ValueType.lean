import TableMapping.Dialect.Basic
import TableMapping.Proofs.Calendar.Texts
import TableMapping.ValueType

/-!
# Values that are read back

The form in which a value is handed to a database is read as the value that it shows, at every type
that has it. This is the value itself, unless its time lies within a leap second that does not end a
minute and it is handed over as a text.
-/

namespace TableMapping

namespace Uuid

variable {first second third fourth last : List Char}

theorem readHyphenated?_groups (first_size : first.length = 8) (second_size : second.length = 4)
    (third_size : third.length = 4) (fourth_size : fourth.length = 4) :
    readHyphenated? (first ++ '-' :: second ++ '-' :: third ++ '-' :: fourth ++ '-' :: last) =
      readSimple? (first ++ second ++ third ++ fourth ++ last) := by
  have hyphens : hyphenPositions.all (fun position =>
      (first ++ '-' :: second ++ '-' :: third ++ '-' :: fourth ++ '-' :: last)[position]? =
        some '-') = true := by
    simp [hyphenPositions, List.getElem?_append, *]
  rw [readHyphenated?, if_pos hyphens]
  simp [List.drop_append, List.drop_of_length_le, *]

theorem length_simpleText (uuid : Uuid) : uuid.simpleText.length = 32 := by
  rw [simpleText, List.length_map, uuid.digits_length]

theorem readSimple?_simpleText (uuid : Uuid) : readSimple? uuid.simpleText = some uuid := by
  have digits (numbers : List (Fin 16)) :
      (numbers.map Hexadecimal.digit).mapM Hexadecimal.value? = some numbers := by
    induction numbers with
    | nil => rfl
    | cons number rest ih => simp [ih]
  rw [readSimple?, simpleText, digits, Option.bind_some, ofDigits?_digits]

theorem append_groups (uuid : Uuid) :
    uuid.simpleText.take 8 ++ (uuid.simpleText.drop 8).take 4 ++
      (uuid.simpleText.drop 12).take 4 ++ (uuid.simpleText.drop 16).take 4 ++
      uuid.simpleText.drop 20 = uuid.simpleText := by
  have third := List.take_append_drop 4 (uuid.simpleText.drop 16)
  have second := List.take_append_drop 4 (uuid.simpleText.drop 12)
  have first := List.take_append_drop 4 (uuid.simpleText.drop 8)
  simp only [List.drop_drop, Nat.reduceAdd] at first second third
  rw [List.append_assoc, third, List.append_assoc, second, List.append_assoc, first,
    List.take_append_drop]

theorem readHyphenated?_text (uuid : Uuid) : readHyphenated? uuid.text = some uuid := by
  have length := uuid.length_simpleText
  rw [text, readHyphenated?_groups (by simp [length]) (by simp [length]) (by simp [length])
    (by simp [length]), uuid.append_groups, readSimple?_simpleText]

theorem utf8Size_of_mem_text {uuid : Uuid} {character : Char} (member : character ∈ uuid.text) :
    character.utf8Size = 1 := by
  have narrow : ∀ number : Fin 16, (Hexadecimal.digit number).utf8Size = 1 := by decide
  have digit : character ∈ uuid.simpleText → character.utf8Size = 1 := by
    intro digit
    obtain ⟨number, -, rfl⟩ := List.mem_map.mp digit
    exact narrow number
  have hyphen : character = '-' → character.utf8Size = 1 := by
    rintro rfl
    decide
  simp only [text, List.mem_append, List.mem_cons] at member
  rcases member with (((first | mark | second) | mark | third) | mark | fourth) | mark | last
  · exact digit (List.mem_of_mem_take first)
  · exact hyphen mark
  · exact digit (List.mem_of_mem_drop (List.mem_of_mem_take second))
  · exact hyphen mark
  · exact digit (List.mem_of_mem_drop (List.mem_of_mem_take third))
  · exact hyphen mark
  · exact digit (List.mem_of_mem_drop (List.mem_of_mem_take fourth))
  · exact hyphen mark
  · exact digit (List.mem_of_mem_drop last)

theorem byteLength_text (uuid : Uuid) : byteLength uuid.text = 36 := by
  rw [byteLength_eq_length fun _ => utf8Size_of_mem_text]
  simp [text, uuid.length_simpleText]

theorem read_text (uuid : Uuid) : read uuid.text = .ok uuid := by
  simp only [read, byteLength_text, readHyphenated?_text]
  rfl

end Uuid

/-! ## Values that texts show -/

namespace SqlValue

/-- The value that the text form shows, which has another time only within a leap second that does
not end a minute. -/
def shown : SqlValue → SqlValue
  | time value => time value.shown
  | dateTime value => dateTime value.shown
  | timestamp value => timestamp value.shown
  | null => null
  | bool value => bool value
  | int value => int value
  | text value => text value
  | uuid value => uuid value
  | date value => date value

/-- No time in the value lies within a leap second that does not end a minute. -/
def HasPlainTime : SqlValue → Prop
  | time value => value.Plain
  | dateTime value => value.time.Plain
  | timestamp value => value.civil.time.Plain
  | null | bool _ | int _ | text _ | uuid _ | date _ => True

/-- The value that is shown has the same text form. -/
theorem textForm_shown (value : SqlValue) : value.shown.textForm = value.textForm := by
  cases value with
  | time value => exact congrArg (text ∘ String.ofList) value.text_shown
  | dateTime value => exact congrArg (text ∘ String.ofList) value.text_shown
  | timestamp value => exact congrArg (text ∘ String.ofList) value.text_shown
  | null | bool _ | int _ | text _ | uuid _ | date _ => rfl

theorem shown_eq_self {value : SqlValue} : value.shown = value ↔ value.HasPlainTime := by
  cases value with
  | time value => exact (time.injEq _ _).to_iff.trans TimeOfDay.shown_eq_self
  | dateTime value => exact (dateTime.injEq _ _).to_iff.trans DateTime.shown_eq_self
  | timestamp value => exact (timestamp.injEq _ _).to_iff.trans OffsetDateTime.shown_eq_self
  | null | bool _ | int _ | text _ | uuid _ | date _ => exact iff_of_true rfl trivial

end SqlValue

namespace Dialect

variable {dialect : Dialect} {value : SqlValue}

/-- The database gives the value back in some form: a moment that it stores as a text is regular. -/
def Reads (dialect : Dialect) (value : SqlValue) : Prop :=
  dialect.storesTemporalAsText = true → ∀ moment, value = .timestamp moment → moment.Regular

/-- The value that is read where the given one was handed to the database. -/
def shown (dialect : Dialect) (value : SqlValue) : SqlValue :=
  if dialect.storesTemporalAsText then value.shown else value

/-- The database is handed the time of the value without loss. -/
def Keeps (dialect : Dialect) (value : SqlValue) : Prop :=
  dialect.storesTemporalAsText = true → value.HasPlainTime

theorem shown_eq_self : dialect.shown value = value ↔ dialect.Keeps value := by
  unfold shown Keeps
  split
  · rename_i textual
    exact SqlValue.shown_eq_self.trans ⟨fun plain _ => plain, fun plain => plain textual⟩
  · rename_i native
    exact iff_of_true rfl fun textual => absurd textual native

end Dialect

/-- The number fits in 32 bits. -/
def FitsInt32 (number : Int64) : Prop :=
  -2147483648 ≤ number.toInt ∧ number.toInt ≤ 2147483647

instance (number : Int64) : Decidable (FitsInt32 number) :=
  inferInstanceAs (Decidable (_ ∧ _))

namespace Scalar

variable {scalar : Scalar} {value : SqlValue}

theorem readInt32_eq_ok {number : Int64} (fits : FitsInt32 number) :
    readInt32 number = .ok (.int number) := by
  have low := fits.1
  have high := fits.2
  rw [readInt32, if_neg (by omega), if_neg (by omega)]

theorem read_self (admitted : scalar.admits value = true) (present : value ≠ .null) :
    scalar.read value = .ok value := by
  cases scalar with
  | int32 =>
      cases value with
      | int number =>
          have fits : FitsInt32 number := by simpa [FitsInt32, admits] using admitted
          exact readInt32_eq_ok fits
      | _ => cases admitted
  | _ => cases value <;> simp_all [admits, read, codeForm]

/-- A value that is present is read from its text form as what this shows. -/
theorem read_textForm (admitted : scalar.admits value = true) (present : value ≠ .null)
    (regular : ∀ moment, value = .timestamp moment → moment.Regular) :
    scalar.read value.textForm = .ok value.shown := by
  cases value with
  | null => exact absurd rfl present
  | bool _ | int _ | text _ => exact read_self admitted present
  | uuid value =>
      cases scalar <;> simp_all [admits, SqlValue.textForm, SqlValue.shown, read, ofText,
        Uuid.read_text]
  | date value =>
      cases scalar <;> simp_all [admits, SqlValue.textForm, SqlValue.shown, read, ofText,
        Date.read_text]
  | time value =>
      cases scalar <;> simp_all [admits, SqlValue.textForm, SqlValue.shown, read, ofText,
        TimeOfDay.read_text]
  | dateTime value =>
      cases scalar <;> simp_all [admits, SqlValue.textForm, SqlValue.shown, read, ofText,
        DateTime.read_text]
  | timestamp value =>
      have told := OffsetDateTime.read_text (regular value rfl)
      cases scalar <;> simp_all [admits, SqlValue.textForm, SqlValue.shown, read, ofText]

variable {dialect : Dialect}

theorem read_bind (admitted : scalar.admits value = true) (present : value ≠ .null)
    (reads : dialect.Reads value) :
    scalar.read (dialect.bind value) = .ok (dialect.shown value) := by
  unfold Dialect.bind Dialect.shown
  split
  · rename_i stored
    split
    · -- A truth value is stored as a number.
      rename_i truth
      cases truth <;> cases scalar <;> first | rfl | cases admitted
    · exact read_textForm admitted present (reads stored)
  · exact read_self admitted present

end Scalar

namespace ValueType

theorem read_textForm {scalar : Scalar} {value : SqlValue} (admitted : scalar.admits value = true)
    (present : value ≠ .null) (regular : ∀ moment, value = .timestamp moment → moment.Regular)
    (optional : Bool) : ValueType.read ⟨scalar, optional⟩ value.textForm = .ok value.shown := by
  have stored : value.textForm.isNull = false := by
    simpa [← Bool.not_eq_true] using present
  simpa [read, stored] using Scalar.read_textForm admitted present regular

theorem read_bind {dialect : Dialect} {type : ValueType} {value : SqlValue}
    (admitted : type.admits value = true) (absent : value = .null → type.optional = true)
    (reads : dialect.Reads value) :
    type.read (dialect.bind value) = .ok (dialect.shown value) := by
  by_cases null : value = .null
  · simp [read, absent null, null, Dialect.shown, SqlValue.shown]
  · have stored : (dialect.bind value).isNull = false := by
      simpa [← Bool.not_eq_true] using null
    have present : value.isNull = false := by simpa [← Bool.not_eq_true] using null
    have scalar : type.scalar.admits value = true := by simpa [admits, present] using admitted
    simpa [read, stored] using Scalar.read_bind scalar null reads

end ValueType

end TableMapping
